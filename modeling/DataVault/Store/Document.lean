/-
Module: DataVault.Store.Document
Layer: Library
Purpose: Documents as a database driver hands them out: finite maps from field names to values that no schema
  has checked, the conditions of a query on them, and an update that sets and unsets fields.
Imports: DataVault.Store.Collection, Mathlib.Data.List.AList
Trusted boundary: none
Main exports: ObjectId, Value, Document, Document.get, Document.set, Document.unset, Query, Document.satisfies,
  updateOne, get_set_of_notMem, updateOne_matched
-/
import DataVault.Store.Collection
import Mathlib.Data.List.AList

namespace DataVault.Store

def isHexDigit (c : Char) : Bool :=
  ('0' ≤ c && c ≤ '9') || ('a' ≤ c && c ≤ 'f') || ('A' ≤ c && c ≤ 'F')

/-- An identifier of twelve bytes, by the text that `toHexString` gives. -/
structure ObjectId where
  hexDigits : List Char
  canonical : hexDigits.length = 24 ∧ hexDigits.all (fun c => isHexDigit c && c.toLower = c) = true
deriving DecidableEq

/-- The identifier a text of 24 hexadecimal digits stands for. -/
def ObjectId.ofHex? (text : String) : Option ObjectId :=
  let digits := text.toList.map Char.toLower
  if valid : text.toList.all isHexDigit = true ∧
      (digits.length = 24 ∧ digits.all (fun c => isHexDigit c && c.toLower = c) = true) then
    some ⟨digits, valid.2⟩
  else none

/-- What a field holds. Numbers that are whole and dates by their time value stand for themselves; `other` is any
value of another kind (fractions, arrays, embedded documents). -/
inductive Value where
  | objectId (id : ObjectId)
  | string (text : String)
  | bool (value : Bool)
  | integer (value : Int)
  | date (time : Int)
  | null
  | other (code : Nat)
deriving DecidableEq

variable {Field : Type} [DecidableEq Field]

/-- A document; every field occurs once. -/
abbrev Document (Field : Type) := AList fun _ : Field => Value

namespace Document

/-- The value of a field, `none` where the document does not have it. -/
def get (document : Document Field) (field : Field) : Option Value := document.lookup field

/-- `$set` -/
def set : List (Field × Value) → Document Field → Document Field
  | [], document => document
  | (field, value) :: rest, document => set rest (document.insert field value)

/-- `$unset` -/
def unset : List Field → Document Field → Document Field
  | [], document => document
  | field :: rest, document => unset rest (document.erase field)

theorem get_insert_of_ne {document : Document Field} {field other : Field} {value : Value} (differs : field ≠ other) :
    get (document.insert other value) field = get document field :=
  AList.lookup_insert_ne differs

/-- An update leaves the fields alone that it does not name. -/
theorem get_set_of_notMem {changes : List (Field × Value)} {document : Document Field} {field : Field}
    (absent : field ∉ changes.map Prod.fst) : (document.set changes).get field = document.get field := by
  induction changes generalizing document with
  | nil => rfl
  | cons change rest ih =>
      simp only [List.map_cons, List.mem_cons, not_or] at absent
      rw [set, ih absent.2, get_insert_of_ne absent.1]

/-- A field that an update names once holds the value afterwards. -/
theorem get_set_of_mem {changes : List (Field × Value)} {document : Document Field} {field : Field} {value : Value}
    (once : (changes.map Prod.fst).Nodup) (listed : (field, value) ∈ changes) :
    (document.set changes).get field = some value := by
  induction changes generalizing document with
  | nil => cases listed
  | cons change rest ih =>
      simp only [List.map_cons, List.nodup_cons] at once
      rcases List.mem_cons.mp listed with rfl | later
      · rw [set, get_set_of_notMem once.1, get, AList.lookup_insert]
      · exact ih once.2 later

theorem get_unset_of_notMem {fields : List Field} {document : Document Field} {field : Field}
    (absent : field ∉ fields) : (document.unset fields).get field = document.get field := by
  induction fields generalizing document with
  | nil => rfl
  | cons erased rest ih =>
      simp only [List.mem_cons, not_or] at absent
      rw [unset, ih absent.2, get, AList.lookup_erase_ne absent.1, get]

end Document

/-! ### Queries -/

/-- The conditions of a query, each on one field. -/
abbrev Query (Field : Type) := List (Field × (Option Value → Bool))

/-- The condition `{ field: value }`. -/
def equals (value : Value) (found : Option Value) : Bool := found = some value

/-- The condition `$gt` on dates. -/
def laterThan (time : Int) : Option Value → Bool
  | some (.date stored) => time < stored
  | _ => false

/-- The condition `{ $exists: false }`. -/
def missing (found : Option Value) : Bool := found.isNone

/-- The condition `{ $in: [id, /^id$/i] }`: the identifier or its text in either case. The database's `$` also stands
before a line feed that ends the text. The fields that are asked about hold single values; into an array the database
would look as well. -/
def refersTo (id : ObjectId) : Option Value → Bool
  | some (.objectId stored) => stored = id
  | some (.string text) =>
      let digits := text.toList.map Char.toLower
      digits = id.hexDigits || digits = id.hexDigits ++ ['\n']
  | _ => false

def Document.satisfies (query : Query Field) (document : Document Field) : Bool :=
  query.all fun (field, condition) => condition (document.get field)

/-- What a write reports. -/
structure UpdateResult where
  matchedCount : Nat
  modifiedCount : Nat
deriving DecidableEq, Repr

/-- `updateOne`: changes the first document that matches. -/
def updateOne (documents : List (Document Field)) (query : Query Field) (update : Document Field → Document Field) :
    UpdateResult × List (Document Field) :=
  match documents.find? (Document.satisfies query), findOneAndUpdate (Document.satisfies query) update documents with
  | some document, some (updated, changed) =>
      ({ matchedCount := 1, modifiedCount := if updated.entries = document.entries then 0 else 1 }, changed)
  | _, _ => ({ matchedCount := 0, modifiedCount := 0 }, documents)

theorem equals_iff {value : Value} {found : Option Value} : equals value found = true ↔ found = some value := by
  simp [equals]

/-- A narrower query: every condition of the wider one is among its own. -/
theorem satisfies_of_subset {narrow wide : Query Field} {document : Document Field} (included : wide ⊆ narrow)
    (satisfied : document.satisfies narrow = true) : document.satisfies wide = true := by
  simp only [Document.satisfies, List.all_eq_true] at satisfied ⊢
  intro condition listed
  exact satisfied condition (included listed)

/-- A write that reports a match has changed one document, which matched, and no other. -/
theorem updateOne_matched {documents changed : List (Document Field)} {query : Query Field}
    {update : Document Field → Document Field} {result : UpdateResult}
    (done : updateOne documents query update = (result, changed)) (matched : result.matchedCount = 1) :
    ∃ before document after, documents = before ++ document :: after ∧ document.satisfies query = true ∧
      changed = before ++ update document :: after := by
  unfold updateOne at done
  split at done
  · rename_i _ _ _ _ _ updated
    cases done
    obtain ⟨before, document, after, split, satisfied, _, _, rest⟩ := findOneAndUpdate_split updated
    exact ⟨before, document, after, split, satisfied, rest⟩
  · cases done
    cases matched

end DataVault.Store
