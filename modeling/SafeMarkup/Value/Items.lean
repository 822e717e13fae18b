import SafeMarkup.Value.Text

/-!
# Values as collections

What a value yields when a collection is asked for: the items of a sequence, the keys of a mapping,
the characters of a text, the numbers of bytes.

* `Value.items?` — the items of a value.
* `Value.toPair` — a value of exactly two items.
* `Value.pairs` — the entries of a mapping, or the pairs of a collection of pairs.
* `Value.groupNames` — the texts among the items of a value, all of which have to be fit for a set.
-/

namespace SafeMarkup

/-- Why a value does not serve as the collection asked for. -/
inductive CollectionError where
  | notIterable (kind : String)
  | notAPair (kind : String)
  | tooFewItems (count : Nat)
  | tooManyItems
  /-- A value of this kind cannot be in a set. -/
  | unhashable (kind : String)
  deriving DecidableEq, Repr, Inhabited

/-- The wording of the error. -/
def CollectionError.message : CollectionError → String
  | notIterable kind => "'" ++ kind ++ "' object is not iterable"
  | notAPair kind => "cannot unpack non-iterable " ++ kind ++ " object"
  | tooFewItems count =>
    "not enough values to unpack (expected 2, got " ++ toString count ++ ")"
  | tooManyItems => "too many values to unpack (expected 2)"
  | unhashable kind => "unhashable type: '" ++ kind ++ "'"

namespace Value

/-- The items of a value, if it is a collection. -/
def items? : Value → Option (List Value)
  | list items | tuple items => some items
  | dict entries => some (entries.map Prod.fst)
  | str s => some (s.toList.map fun c => str (String.singleton c))
  | bytes b => some (b.map fun n => int n.toNat)
  | _ => none

/-- A value of exactly two items. -/
def toPair (v : Value) : Except CollectionError (Value × Value) :=
  match v.items? with
  | none => .error (.notAPair v.kindName)
  | some [first, second] => .ok (first, second)
  | some (_ :: _ :: _ :: _) => .error .tooManyItems
  | some few => .error (.tooFewItems few.length)

/-- The entries of a mapping, or the pairs of a collection of pairs. -/
def pairs (v : Value) : Except CollectionError (List (Value × Value)) :=
  match v with
  | dict entries => .ok entries
  | other =>
    match other.items? with
    | some items => items.mapM toPair
    | none => .error (.notIterable other.kindName)

mutual

/-- The kind of the first part of a value that cannot be in a set: lists and mappings can change,
and a tuple is what its items are. -/
def unhashable? : Value → Option String
  | list _ => some "list"
  | dict _ => some "dict"
  | tuple items => unhashableItem? items
  | _ => none

/-- The same for the items of a tuple. -/
def unhashableItem? : List Value → Option String
  | [] => none
  | item :: rest =>
    match unhashable? item with
    | some kind => some kind
    | none => unhashableItem? rest

end

/-- The texts among the items of a value, as a set of names. -/
def groupNames (v : Value) : Except CollectionError (List String) :=
  match v.items? with
  | none => .error (.notIterable v.kindName)
  | some items =>
    match unhashableItem? items with
    | some kind => .error (.unhashable kind)
    | none => .ok (items.filterMap str?)

/-! ## Equal keys -/

/-- A number as a quotient with its sign, for comparison across kinds. -/
def sameNumber? (a b : Value) : Option Bool :=
  let asInt : Value → Option Int
    | int n => some n
    | bool t => some (if t then 1 else 0)
    | _ => none
  match a, b with
  | float x, float y => some (x.sameNumber y)
  | float x, other => (asInt other).map x.equalsInt
  | other, float y => (asInt other).map y.equalsInt
  | a, b => match asInt a, asInt b with
    | some m, some n => some (m == n)
    | _, _ => none

mutual

/-- Whether two values are the same key of a mapping.  Numbers of all kinds, the truth values among
them, are compared as numbers. -/
def sameKey : Value → Value → Bool
  | null, null => true
  | str s, str t => s == t
  | bytes a, bytes b => a == b
  | tuple as, tuple bs => sameKeys as bs
  | html s, html t => s == t
  | unescaped s, unescaped t => s == t
  | comment s, comment t => s == t
  | a, b => (sameNumber? a b).getD false

/-- The same for the items of two tuples. -/
def sameKeys : List Value → List Value → Bool
  | [], [] => true
  | a :: as, b :: bs => sameKey a b && sameKeys as bs
  | _, _ => false

end

/-- Sets the value of a key.  A key that is there keeps its place and its first form. -/
def setEntry (key value : Value) : List (Value × Value) → List (Value × Value)
  | [] => [(key, value)]
  | (other, old) :: rest =>
    if sameKey other key then (other, value) :: rest
    else (other, old) :: setEntry key value rest

/-- A mapping with the given entries, in the order in which their keys come first. -/
def ofEntries (entries : List (Value × Value)) : Value :=
  dict (entries.foldl (fun done e => setEntry e.1 e.2 done) [])

end Value

end SafeMarkup
