/-!
# Entries of an object

The entries of a JSON object in the order in which they were written.  Order is part of the
meaning: a look-up that ignores case takes the first key that matches, and a bag of styles keeps
the order of its entries.

* `Entries.insert`: writing a key, at its old place if it is already there.
* `Entries.find?`: the look-up that prefers the exact key and falls back to the first key that is
  equal up to the case of ASCII letters.
-/

namespace Bindery

/-- Keys with their values, in order. -/
abbrev Entries (α : Type) := List (String × α)

/-- A key with its ASCII capitals made small.  Two keys are equal up to the case of ASCII letters
exactly when their folds are equal; letters outside ASCII are left alone. -/
def foldCase (key : String) : List Char :=
  key.toList.map Char.toLower

namespace Entries

variable {α : Type}

/-- Write a key: the value replaces the one under that key, or becomes the last entry. -/
def insert (key : String) (value : α) : Entries α → Entries α
  | [] => [(key, value)]
  | (k, v) :: rest => if k = key then (key, value) :: rest else (k, v) :: insert key value rest

@[simp] theorem insert_nil (key : String) (value : α) : insert key value [] = [(key, value)] := rfl

theorem insert_cons (key k : String) (value v : α) (rest : Entries α) :
    insert key value ((k, v) :: rest) =
      if k = key then (key, value) :: rest else (k, v) :: insert key value rest := rfl

/-- The entries written one after the other: a repeated key keeps its first place and takes its
last value. -/
def ofList (entries : List (String × α)) : Entries α :=
  entries.foldl (fun written entry => written.insert entry.1 entry.2) []

/-- The value under exactly this key. -/
def get? (entries : Entries α) (key : String) : Option α :=
  (entries.find? fun entry => entry.1 == key).map Prod.snd

/-- The value under the first key equal to this one up to the case of ASCII letters. -/
def getIgnoringCase? (entries : Entries α) (key : String) : Option α :=
  (entries.find? fun entry => foldCase entry.1 == foldCase key).map Prod.snd

/-- The value under this key, or else under the first key equal to it up to case. -/
def find? (entries : Entries α) (key : String) : Option α :=
  (entries.get? key).or (entries.getIgnoringCase? key)

end Entries

end Bindery
