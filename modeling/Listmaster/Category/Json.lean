import Listmaster.Category
import Listmaster.Json.Basic

/-!
Categories in JSON, where they are given by their names.
-/

namespace Listmaster.Category

def toJson (category : Category) : Json := .text category.name

def ofJson? (value : Json) : Option Category := value.text?.bind ofName?

end Listmaster.Category
