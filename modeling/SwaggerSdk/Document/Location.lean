/-!
# Where a parameter is carried

A parameter's location, as the document spells it. Five spellings are known, whatever their case; any other
is kept as it is written. `ofName_name` says that the spelling of a location reads as that location.
-/

namespace SwaggerSdk

inductive KnownLocation where
  | path | query | header | body | formData
  deriving DecidableEq, Repr, Inhabited

namespace KnownLocation

def name : KnownLocation → String
  | path => "path"
  | query => "query"
  | header => "header"
  | body => "body"
  | formData => "formData"

def all : List KnownLocation := [path, query, header, body, formData]

def folded (name : String) : List Char := name.toList.map Char.toLower

def ofName? (name : String) : Option KnownLocation :=
  all.find? fun location => folded location.name == folded name

theorem ofName?_name (location : KnownLocation) : ofName? location.name = some location := by
  cases location <;> decide +kernel

end KnownLocation

inductive Location where
  | known (location : KnownLocation)
  | other (name : String) (unknown : KnownLocation.ofName? name = none)
  deriving DecidableEq, Repr

namespace Location

def ofName (name : String) : Location :=
  match h : KnownLocation.ofName? name with
  | some location => known location
  | none => other name h

def name : Location → String
  | known location => location.name
  | other name _ => name

def isOther : Location → Bool
  | known _ => false
  | other _ _ => true

def unspecified : Location := ofName ""

instance : Inhabited Location := ⟨unspecified⟩

theorem ofName_name (location : Location) : ofName location.name = location := by
  unfold ofName
  cases location with
  | known location =>
    split
    next found h => rw [name, KnownLocation.ofName?_name] at h; rw [Option.some.inj h]
    next h => rw [name, KnownLocation.ofName?_name] at h; cases h
  | other written unknown =>
    split
    next found h => rw [name, unknown] at h; cases h
    next => rfl

end Location

end SwaggerSdk
