import ViewModifiers.Dispatch.Target
import ViewModifiers.Emit.EnumCode
import ViewModifiers.Stylesheet.Registry

/-!
# Reading enumerated values

On a build target, a value of an enumerated type is read by the name of a case. The type has a
reader only on its own platforms. A case with a guard is refused where its own availability rules
the target out; any other case is always there.
-/

namespace ViewModifiers.Dispatch

open Catalog Emit Stylesheet Text

/-- Why the enumerated types cannot be built for a target. -/
inductive EnumError
  | unreadable (cause : EmissionError)
  | repeatedMember (className member : String)
  | reservedMember (className : String)

/-- Whether a type has a reader on a target: its platforms have to include the target's, unless it
names none. -/
def existsOn (t : Target) (e : Enumeration) : Bool :=
  e.availability.offeredPlatforms.isEmpty
    || e.availability.offeredPlatforms.contains t.platform

/-- The class of a type. -/
def classOf (e : Enumeration) : EnumClass where
  name := enumClass e.name
  members := e.cases.map fun c => normalForm (enumMember c.name)

/-- The value of a case. -/
def caseValue (e : Enumeration) (c : EnumerationCase) : Value := .enumCase (classOf e) c.name

/-- What a guarded case needs of a target. -/
def caseRequirements (c : EnumerationCase) : Except EmissionError (NameTable (Option Version)) := do
  let versions ← requirements c.availability
  return c.availability.offeredPlatforms.map fun p =>
    (p, (minimumVersion? versions p).map fun v => v.map Int.ofNat)

/-- What a target makes of a guarded case. -/
def guardedCase (t : Target) (e : Enumeration) (c : EnumerationCase)
    (needed : NameTable (Option Version)) : Except Failure Value :=
  if !c.availability.offeredPlatforms.contains t.platform then
    .error (.unavailable (.onPlatform c.name))
  else if !t.meets needed then .error (.unavailable (.inVersion c.name))
  else .ok (caseValue e c)

/-- What a target makes of a case. -/
def targetCase (t : Target) (e : Enumeration) (c : EnumerationCase) :
    Except EmissionError (Except Failure Value) :=
  if e.needsGuard c then (caseRequirements c).map (guardedCase t e c)
  else .ok (.ok (caseValue e c))

/-- What a target makes of the cases of a type, by their names. -/
def targetCases (t : Target) (e : Enumeration) :
    Except EmissionError (NameTable (Except Failure Value)) := do
  return NameTable.ofList (← e.cases.mapM fun c => do return (c.name, ← targetCase t e c))

/-- The first name that occurs again behind itself. -/
def repeated? : List String → Option String
  | [] => none
  | n :: ns => if ns.contains n then some n else repeated? ns

/-- The name by which a class knows the order of its bases; it cannot have a member of that name. -/
def classOrder : String := "mro"

/-- The reader of a type, given what the target makes of its cases, if the target has the type. Its
class has to have a member of its own for every case. -/
def enumReader? (t : Target) (e : Enumeration) (cases : NameTable (Except Failure Value)) :
    Except EnumError (Option (Reader Value)) :=
  if !existsOn t e then .ok none
  else
    match repeated? (classOf e).members with
    | some name => .error (.repeatedMember (enumClass e.name) name)
    | none =>
      if (classOf e).members.contains classOrder then .error (.reservedMember (enumClass e.name))
      else .ok (some (Reader.member cases))

/-- The readers of the types that a target has, in the order of the types' names. -/
def enumReaders (t : Target) (enums : List Enumeration) :
    Except EnumError (NameTable (Reader Value)) := do
  let sorted := enums.mergeSort enumLe
  let cases ← (sorted.mapM (targetCases t)).mapError .unreadable
  let readers ← (sorted.zip cases).mapM fun (e, c) => do return (e.name, ← enumReader? t e c)
  return readers.filterMap fun (name, reader) => reader.map fun r => (name, r)

/-- A registry that knows the enumerated types of a target as well. -/
def withEnums (r : Registry) (readers : NameTable (Reader Value)) : Registry :=
  readers.foldl (fun r e => r.register e.1 e.2) r

end ViewModifiers.Dispatch
