import CaptureForest.Value.Equality
/-!
# Pairs in insertion order

Maps as lists of pairs. Inserting under a key that is present replaces the value and keeps the place
and the spelling of the key; a new key goes to the end.
-/

namespace CaptureForest

namespace Pairs

/-- The value under a key. -/
def find? (key : Value) : Pairs → Option Value
  | [] => none
  | (k, v) :: rest => if k.same key then some v else find? key rest

/-- The value under a textual key. -/
def lookup? (word : String) : Pairs → Option Value
  | [] => none
  | (k, v) :: rest => if k.isWord word then some v else lookup? word rest

/-- The value under a textual key, an absent key counting as no value. -/
def get (word : String) (pairs : Pairs) : Value := Value.ofOption (lookup? word pairs)

def contains (word : String) (pairs : Pairs) : Bool := (lookup? word pairs).isSome

def insert (key value : Value) : Pairs → Pairs
  | [] => [(key, value)]
  | (k, v) :: rest => if k.same key then (k, value) :: rest else (k, v) :: insert key value rest

/-- Inserts the pairs of the second list one after another. -/
def update (pairs changes : Pairs) : Pairs :=
  changes.foldl (fun acc change => insert change.1 change.2 acc) pairs

/-- The map that results from giving the pairs in order. -/
def ofList (pairs : List (Value × Value)) : Pairs := update [] pairs

/-- A map with textual keys. -/
def fields (entries : List (String × Value)) : Pairs := entries.map fun (k, v) => (.str k, v)

def erase (word : String) (pairs : Pairs) : Pairs := pairs.filter fun pair => !pair.1.isWord word

def keys (pairs : Pairs) : List Value := pairs.map (·.1)

/-- Whether some key is one of the words. -/
def namesAny (words : List String) (pairs : Pairs) : Bool := (keys pairs).any (·.isAmong words)

end Pairs

/-- A map value with textual keys. -/
def Value.record (entries : List (String × Value)) : Value := .map (Pairs.fields entries)

end CaptureForest
