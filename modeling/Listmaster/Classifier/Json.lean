import Listmaster.Classifier
import Listmaster.Json.Basic

/-!
Predicates in JSON, where they are given by their names.
-/

namespace Listmaster.Classifier.Predicate

def toJson (predicate : Predicate) : Json := .text predicate.name

def ofJson? (value : Json) : Option Predicate := value.text?.bind ofName?

end Listmaster.Classifier.Predicate
