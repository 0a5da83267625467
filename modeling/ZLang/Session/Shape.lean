import ZLang.Json.Basic
import ZLang.Session.Uri

/-!
Shapes of JSON values. A record is written as an object, which has the fields by name and may have
others, or as an array, which has all fields in order and no others. Some records are open: they
share one object with others and are written in no other way. Which texts are URIs is left to a
reader of URIs.
-/
set_option autoImplicit false

namespace ZLang.Session

open ZLang.Json (Value)

/-- What a value must look like, under a reader of URIs. -/
abbrev Shape := UriReader → Value → Bool

namespace Shape

/-! ## Single values -/

def anything : Shape := fun _ _ => true

def bool : Shape
  | _, .bool _ => true
  | _, _ => false

def number : Shape
  | _, .number _ => true
  | _, _ => false

def text? : Value → Option Text
  | .string s => some s
  | _ => none

def text : Shape := fun _ v => (text? v).isSome

/-- An integer from `low` to below `high`. -/
def integer? (low high : Int) : Value → Option Int
  | .number n => n.toInt?.filter fun i => low ≤ i && i < high
  | _ => none

/-- A natural number of 32 bits. -/
def natural? (v : Value) : Option Nat := (integer? 0 0x100000000 v).map Int.toNat

def natural : Shape := fun _ v => (natural? v).isSome

/-- An integer of 32 bits. -/
def signed? (v : Value) : Option Int := integer? (-0x80000000) 0x80000000 v

def signed : Shape := fun _ v => (signed? v).isSome

def isUri (readUri : UriReader) (t : Text) : Bool := (readUri t).isSome

def uri? (readUri : UriReader) (v : Value) : Option Uri := (text? v).bind readUri

def uri : Shape := fun readUri v => (uri? readUri v).isSome

/-- One of some names, alone or as the one member of an object, with null behind it. -/
def oneOf (names : List String) : Shape
  | _, .string s => names.any fun n => n.toList == s
  | _, .object [(key, .null)] => names.any fun n => n.toList == key
  | _, _ => false

/-! ## Values made of others -/

def orNull (s : Shape) : Shape
  | _, .null => true
  | readUri, v => s readUri v

def either (s t : Shape) : Shape := fun readUri v => s readUri v || t readUri v

def list (s : Shape) : Shape
  | readUri, .array items => items.all (s readUri)
  | _, _ => false

/-- An object with keys and values of given kinds. -/
def dictionary (isKey : UriReader → Text → Bool) (s : Shape) : Shape
  | readUri, .object members => members.all fun m => isKey readUri m.1 && s readUri m.2
  | _, _ => false

end Shape

/-! ## Records -/

/-- A field of a record. -/
structure Field where
  name : String
  shape : Shape
  /-- An object may leave the field out. -/
  omissible : Bool
  /-- An array may end before the field. -/
  trailing : Bool

namespace Field

/-- A field that must be there. -/
def need (name : String) (s : Shape) : Field := ⟨name, s, false, false⟩

/-- A field that may be left out of an object, or be null. -/
def may (name : String) (s : Shape) : Field := ⟨name, Shape.orNull s, true, false⟩

/-- A field with a value of its own where it is not given. -/
def preset (name : String) (s : Shape) : Field := ⟨name, s, true, true⟩

section

variable (readUri : UriReader)

/-- The value of the field in an object, if it has its shape; one that is left out is null. -/
def inObject? (v : Value) (f : Field) : Option Value :=
  match v.get? f.name.toList with
  | some x => if f.shape readUri x then some x else none
  | none => if f.omissible then some .null else none

/-- The values of fields in an array, if they have their shapes. -/
def inArray? : List Field → List Value → Option (List Value)
  | [], [] => some []
  | [], _ :: _ => none
  | f :: fs, [] => if f.trailing then (inArray? fs []).map (.null :: ·) else none
  | f :: fs, x :: xs => if f.shape readUri x then (inArray? fs xs).map (x :: ·) else none

/-- The values of the fields of an open record, in order. -/
def openValues? (fields : List Field) (v : Value) : Option (List Value) :=
  match v with
  | .object _ => fields.mapM (inObject? readUri v)
  | _ => none

/-- The values of the fields of a record, in order. -/
def values? (fields : List Field) (v : Value) : Option (List Value) :=
  match v with
  | .object _ => fields.mapM (inObject? readUri v)
  | .array items => inArray? readUri fields items
  | _ => none

end

end Field

namespace Shape

def record (fields : List Field) : Shape := fun readUri v =>
  (Field.values? readUri fields v).isSome

def openRecord (fields : List Field) : Shape := fun readUri v =>
  (Field.openValues? readUri fields v).isSome

end Shape

end ZLang.Session
