import ViewModifiers.Numeral.Exact
import ViewModifiers.Stylesheet.Value

/-!
# Sets of values

A set holds no two values that are the same. Numbers are the same if they have the same exact value,
and truth values count as the numbers zero and one. Only values that cannot change may stand in a
set: lists, dictionaries, calls and events may not, nor may what contains them.
-/

namespace ViewModifiers.Stylesheet.Value

open Numeral

mutual

/-- Whether a value may stand in a set. -/
def isElement : Value → Bool
  | list _ | pair _ _ | dictionary _ | call _ | anyModifier _ | event _ _ => false
  | tuple items => areElements items
  | constant value => isElement value
  | _ => true

/-- Whether several values may stand in a set. -/
def areElements : List Value → Bool
  | [] => true
  | v :: vs => isElement v && areElements vs

end

/-- The exact value of a number. -/
def exactValue? : Value → Option Exact
  | flag b => some (.ofInt (if b then 1 else 0))
  | integer n => some (.ofInt n)
  | decimal x => Exact.ofFloat? x
  | _ => none

mutual

/-- Whether two values are the same element of a set. -/
def isSame : Value → Value → Bool
  | flag b, w => exactValue? w = exactValue? (flag b)
  | integer n, w => exactValue? w = exactValue? (integer n)
  | decimal x, w => (exactValue? (decimal x)).isSome && exactValue? w = exactValue? (decimal x)
  | null, w => match w with | null => true | _ => false
  | omitted, w => w.isOmitted
  | text s, w => match w with | text t => s = t | _ => false
  | tuple vs, w => match w with | tuple ws => areSame vs ws | _ => false
  | set vs, w => match w with | set ws => vs.length = ws.length && areAmong vs ws | _ => false
  | atom a, w => match w with | atom b => a = b | _ => false
  | member a, w => match w with | member b => a = b | _ => false
  | views p ts, w => match w with | views q us => p = q && ts = us | _ => false
  | textTemplate a, w => match w with | textTemplate b => a = b | _ => false
  | constant v, w => match w with | constant u => isSame v u | _ => false
  | elementAttribute a, w => match w with | elementAttribute b => a = b | _ => false
  | binding a, w => match w with | binding b => a = b | _ => false
  | enumCase t a, w => match w with | enumCase u b => t = u && a = b | _ => false
  | list _, _ | pair _ _, _ | dictionary _, _ | call _, _ | anyModifier _, _ | event _ _, _ => false

/-- Whether two lists have the same elements, place by place. -/
def areSame : List Value → List Value → Bool
  | [], [] => true
  | v :: vs, w :: ws => isSame v w && areSame vs ws
  | _, _ => false

/-- Whether every value of a list is the same as one of another list. -/
def areAmong : List Value → List Value → Bool
  | [], _ => true
  | v :: vs, ws => ws.any (fun w => isSame v w) && areAmong vs ws

end

/-- Values of which no two are the same; of those that are, the first is kept. -/
def distinct (values : List Value) : List Value :=
  values.foldl (fun kept v => if kept.any fun w => isSame w v then kept else kept ++ [v]) []

theorem distinct_concat (values : List Value) (v : Value) :
    distinct (values ++ [v]) =
      if (distinct values).any fun w => isSame w v then distinct values
      else distinct values ++ [v] :=
  List.foldl_append

end ViewModifiers.Stylesheet.Value
