import TermSheet.Value.Basic

/-!
# Equality of values

Numbers are equal when they are numerically equal, whatever their types; a truth value counts as
zero or one. A currency or a direction equals its word. Two mappings are equal when they hold equal
values under equal keys, in any order. All other values are compared within their type, part by
part. A comparison that meets a signalling NaN beside a number has no answer.

A value that is to be kept in a set must not be changeable: lists and mappings cannot be, and
neither can a value that holds one.

Results:
- `sameContract_eq_same`: contracts of values are compared like any contracts.
-/

namespace TermSheet.Value

/-- The number that a value stands for, where it stands for one. -/
def toNumeral? : Value → Option Numeral
  | bool b => some (.finite (Decimal.ofNat b.toNat))
  | int i => some (.finite (Decimal.ofInt i))
  | float x => some x.toNumeral
  | decimal n => some n
  | _ => Option.none

/-- The text that a value stands for, where it stands for one. -/
def toText? : Value → Option String
  | text s => some s
  | currency c => some c.code
  | direction d => some d.word
  | _ => Option.none

/-- Numeric equality; what is not a number equals nothing. -/
def sameNumeral : Numeral → Numeral → Bool
  | .finite a, .finite b => a.sameValue b
  | .infinite a, .infinite b => a == b
  | _, _ => false

/-- Equality of values that hold no other values. -/
def sameAtom (a b : Value) : Bool :=
  match a.toNumeral?, b.toNumeral?, a.toText?, b.toText? with
  | some x, some y, _, _ => sameNumeral x y
  | _, _, some s, some t => s == t
  | _, _, _, _ =>
    match a, b with
    | none, none => true
    | bytes x, bytes y => x == y
    | date x, date y => x == y
    | dateTime x, dateTime y => x.sameMoment y
    | amount x, amount y => x.sameQuantity y
    | payment x, payment y => x.same y
    | object s i, object t j => s == t && i == j
    | _, _ => false

mutual

/-- Equality of values. -/
def same : Value → Value → Bool
  | list xs, list ys => sameList xs ys
  | tuple xs, tuple ys => sameList xs ys
  | dict xs, dict ys => xs.length == ys.length && within xs ys
  | contract c, contract d => sameContract c d
  | settlement ⟨ps, c⟩, settlement ⟨qs, d⟩ =>
    ps.length == qs.length && (ps.zip qs).all (fun (p, q) => p.same q) && sameContract c d
  | x, y => sameAtom x y
termination_by structural x => x

/-- Equality of lists, item by item. -/
def sameList : List Value → List Value → Bool
  | [], [] => true
  | x :: xs, y :: ys => same x y && sameList xs ys
  | _, _ => false
termination_by structural x => x

/-- Whether every entry of the first mapping is in the second. -/
def within : List (Value × Value) → List (Value × Value) → Bool
  | [], _ => true
  | (key, item) :: entries, others =>
    others.any (fun (k, v) => same key k && same item v) && within entries others
termination_by structural x => x

/-- Equality of contracts, with foreign leaves compared as values. -/
def sameContract : Contract Value → Contract Value → Bool
  | .zero, .zero => true
  | .one a, .one b => a == b
  | .multiple x c, .multiple y d => x.sameQuantity y && sameContract c d
  | .later s c, .later t d => s == t && sameContract c d
  | .give c, .give d => sameContract c d
  | .both a b, .both c d => sameContract a c && sameContract b d
  | .foreign x, .foreign y => same x y
  | _, _ => false
termination_by structural x => x

end

theorem sameContract_eq_same (c d : Contract Value) : sameContract c d = c.same same d := by
  induction c generalizing d with
  | zero | one _ | foreign _ => cases d <;> rfl
  | multiple _ _ ih | later _ _ ih | give _ ih =>
    cases d <;> simp [sameContract, Contract.same, ih]
  | both _ _ ihLeft ihRight => cases d <;> simp [sameContract, Contract.same, ihLeft, ihRight]

/-! ## Comparisons without an answer -/

/-- Whether two values stand for numbers one of which is a signalling NaN. -/
def signalsAtom (a b : Value) : Bool :=
  match a.toNumeral?, b.toNumeral? with
  | some x, some y => x.isSignalling || y.isSignalling
  | _, _ => false

mutual

/-- Whether a comparison meets a signalling NaN beside a number before it meets a difference. -/
def signals : Value → Value → Bool
  | list xs, list ys => xs.length == ys.length && signalsList xs ys
  | tuple xs, tuple ys => signalsList xs ys
  | dict xs, dict ys => xs.length == ys.length && signalsWithin xs ys
  | contract c, contract d => signalsContract c d
  | settlement ⟨ps, c⟩, settlement ⟨qs, d⟩ =>
    ps.length == qs.length && (ps.zip qs).all (fun (p, q) => p.same q) && signalsContract c d
  | x, y => signalsAtom x y
termination_by structural x => x

/-- The same of two lists, item by item. -/
def signalsList : List Value → List Value → Bool
  | x :: xs, y :: ys => signals x y || (same x y && signalsList xs ys)
  | _, _ => false
termination_by structural x => x

/-- The same of a mapping and another one, entry by entry of the first. -/
def signalsWithin : List (Value × Value) → List (Value × Value) → Bool
  | [], _ => false
  | (key, item) :: entries, others =>
    match others.find? fun (k, _) => same key k with
    | some (_, v) => signals item v || (same item v && signalsWithin entries others)
    | Option.none => false
termination_by structural x => x

/-- The same of two contracts, the left part before the right one. -/
def signalsContract : Contract Value → Contract Value → Bool
  | .multiple x c, .multiple y d => x.sameQuantity y && signalsContract c d
  | .later s c, .later t d => s == t && signalsContract c d
  | .give c, .give d => signalsContract c d
  | .both a b, .both c d => signalsContract a c || (sameContract a c && signalsContract b d)
  | .foreign x, .foreign y => signals x y
  | _, _ => false
termination_by structural x => x

end

/-- Equality of contracts; without an answer when the comparison signals. -/
def sameContract? (c d : Contract Value) : Option Bool :=
  if signalsContract c d then Option.none else some (sameContract c d)

/-! ## Mappings -/

/-- A mapping from entries in order. A key that comes again keeps its first place and takes the
    last value. -/
def dictOf (entries : List (Value × Value)) : Value :=
  dict (entries.foldl put [])
where
  /-- One more entry. -/
  put (kept : List (Value × Value)) (entry : Value × Value) : List (Value × Value) :=
    if kept.any (fun (key, _) => same key entry.1) then
      kept.map fun (key, item) => if same key entry.1 then (key, entry.2) else (key, item)
    else kept ++ [entry]

/-- The value of a key of a mapping. -/
def field? (entries : List (Value × Value)) (key : String) : Option Value :=
  (entries.find? fun (k, _) => k.toText? == some key).map (·.2)

/-! ## Values in sets -/

/-- Why a value cannot be kept in a set. -/
inductive SetFault
  | changeable (typeName : String)
  | signalling
  deriving DecidableEq

/-- The wording of a fault. -/
def SetFault.message : SetFault → String
  | changeable typeName => "unhashable type: '" ++ typeName ++ "'"
  | signalling => "Cannot hash a signaling NaN value"

mutual

/-- The first reason, from left to right, why a value cannot be kept in a set. -/
def setFault? : Value → Option SetFault
  | list _ => some (.changeable "list")
  | dict _ => some (.changeable "dict")
  | decimal n => if n.isSignalling then some .signalling else Option.none
  | tuple items => setFaultList? items
  | contract c => setFaultContract? c
  | settlement ⟨_, c⟩ => setFaultContract? c
  | _ => Option.none

/-- The first reason in a list. -/
def setFaultList? : List Value → Option SetFault
  | [] => Option.none
  | item :: items => (setFault? item).or (setFaultList? items)

/-- The first reason in a contract. -/
def setFaultContract? : Contract Value → Option SetFault
  | .zero | .one _ => Option.none
  | .multiple _ inner | .later _ inner | .give inner => setFaultContract? inner
  | .both left right => (setFaultContract? left).or (setFaultContract? right)
  | .foreign leaf => setFault? leaf

end

/-- How many elements the set of two contracts has. -/
def setSize? (a b : Contract Value) : Except SetFault Nat :=
  match (setFaultContract? a).or (setFaultContract? b) with
  | some fault => .error fault
  | Option.none => .ok (if sameContract a b then 1 else 2)

end TermSheet.Value
