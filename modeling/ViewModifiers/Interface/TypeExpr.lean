import ViewModifiers.Text.Split

/-!
# Types as they are written

A type as it is written in an interface. `TypeExpr.text` is the spelling that all later stages go
by: schemas show it and overloads are compared through it.
-/

namespace ViewModifiers.Interface

open Text

/-- The word in front of a type that stands for some or any conforming type. -/
inductive Quantifier
  | some
  | any
  deriving DecidableEq, Repr, Inhabited

/-- The two kinds of metatypes. -/
inductive MetatypeKind
  | ofType
  | ofProtocol
  deriving DecidableEq, Repr, Inhabited

/-- A type as it is written. -/
inductive TypeExpr
  | named (name : String) (arguments : List TypeExpr)
  | member (base : TypeExpr) (name : String) (arguments : List TypeExpr)
  | optional (wrapped : TypeExpr) (implicit : Bool)
  | array (element : TypeExpr)
  | dictionary (key value : TypeExpr)
  | tuple (elements : List (Option String × TypeExpr))
  | function (parameters : List TypeExpr) (result : TypeExpr) (isAsync throws : Bool)
  | attributed (attributes : List String) (specifier : Option String) (base : TypeExpr)
  | quantified (word : Quantifier) (bound : TypeExpr)
  | composition (types : List TypeExpr)
  | metatype (base : TypeExpr) (kind : MetatypeKind)
  | variadic (element : TypeExpr)
  deriving Repr, Inhabited

/-- The word as it is written. -/
def Quantifier.spelling : Quantifier → String
  | some => "some"
  | any => "any"

/-- The member name that makes a metatype. -/
def MetatypeKind.spelling : MetatypeKind → String
  | ofType => "Type"
  | ofProtocol => "Protocol"

namespace TypeExpr

/-! ## Spelling -/

/-- Generic arguments in angle brackets; nothing at all if there are none. -/
def argumentList (texts : List String) : String :=
  if texts.isEmpty then "" else "<" ++ joinWith ", " texts ++ ">"

/-- A tuple element with its label; an empty label counts as none. -/
def labelled (label : Option String) (text : String) : String :=
  match label with
  | none => text
  | some l => if l = "" then text else l ++ ": " ++ text

/-- The effects of a function, as they stand between parameters and arrow. -/
def effects (isAsync throws : Bool) : String :=
  (if isAsync then " async" else "") ++ (if throws then " throws" else "")

/-- Attributes and a specifier, as they stand in front of a type. -/
def leadingWords (attributes : List String) (specifier : Option String) : List String :=
  attributes.map ("@" ++ ·) ++ (specifier.toList.filter (· ≠ ""))

mutual

/-- The spelling of a type. -/
def text : TypeExpr → String
  | named name arguments => name ++ argumentList (texts arguments)
  | member base name arguments => base.text ++ "." ++ name ++ argumentList (texts arguments)
  | optional wrapped implicit => wrapped.text ++ (if implicit then "!" else "?")
  | array element => "[" ++ element.text ++ "]"
  | dictionary key value => "[" ++ key.text ++ ": " ++ value.text ++ "]"
  | tuple elements => "(" ++ joinWith ", " (elementTexts elements) ++ ")"
  | function parameters result isAsync throws =>
    "(" ++ joinWith ", " (texts parameters) ++ ")" ++ effects isAsync throws ++ " -> "
      ++ result.text
  | attributed attributes specifier base =>
    joinWith " " (leadingWords attributes specifier ++ [base.text])
  | quantified word bound => word.spelling ++ " " ++ bound.text
  | composition types => joinWith " & " (texts types)
  | metatype base kind => base.text ++ "." ++ kind.spelling
  | variadic element => element.text ++ "..."

/-- The spellings of several types. -/
def texts : List TypeExpr → List String
  | [] => []
  | t :: ts => t.text :: texts ts

/-- The spellings of tuple elements. -/
def elementTexts : List (Option String × TypeExpr) → List String
  | [] => []
  | (label, t) :: es => labelled label t.text :: elementTexts es

end

theorem texts_eq_map (ts : List TypeExpr) : texts ts = ts.map text := by
  induction ts with
  | nil => rfl
  | cons t ts ih => simp [texts, ih]

/-- The spelling without qualification: the last name of a member type, else the whole text. -/
def plainName : TypeExpr → String
  | member _ name _ => name
  | t => t.text

/-! ## Parts -/

/-- The dotted names of a nominal type without its arguments. -/
def path? : TypeExpr → Option (List String)
  | named name _ => some [name]
  | member base name _ => base.path?.map (· ++ [name])
  | _ => none

/-- Parameters and result of the function type that stands behind attributes, if any does. -/
def closure? : TypeExpr → Option (List TypeExpr × TypeExpr)
  | function parameters result _ _ => some (parameters, result)
  | attributed _ _ (function parameters result _ _) => some (parameters, result)
  | _ => none

/-- The generic arguments of a nominal type. -/
def arguments : TypeExpr → List TypeExpr
  | named _ arguments => arguments
  | member _ _ arguments => arguments
  | _ => []

/-- Whether a type is the unit type: the empty tuple, or a name that ends in `Void`. -/
def isVoid : TypeExpr → Bool
  | tuple elements => elements.isEmpty
  | t => match t.path? with
    | none => false
    | some path => path.getLast? = some "Void" && t.arguments.isEmpty

mutual

/-- Whether a name is part of any nominal type inside a type. A member name counts only if it ends a
chain of names. -/
def mentions (name : String) : TypeExpr → Bool
  | named n arguments => n == name || anyMentions name arguments
  | member base n arguments =>
    (n == name && base.path?.isSome) || base.mentions name || anyMentions name arguments
  | optional wrapped _ => wrapped.mentions name
  | array element => element.mentions name
  | dictionary key value => key.mentions name || value.mentions name
  | tuple elements => anyElementMentions name elements
  | function parameters result _ _ => anyMentions name parameters || result.mentions name
  | attributed _ _ base => base.mentions name
  | quantified _ bound => bound.mentions name
  | composition types => anyMentions name types
  | metatype base _ => base.mentions name
  | variadic element => element.mentions name

/-- Whether a name is part of any of the types. -/
def anyMentions (name : String) : List TypeExpr → Bool
  | [] => false
  | t :: ts => t.mentions name || anyMentions name ts

/-- Whether a name is part of any of the tuple elements. -/
def anyElementMentions (name : String) : List (Option String × TypeExpr) → Bool
  | [] => false
  | (_, t) :: es => t.mentions name || anyElementMentions name es

end

/-! ## Module qualifiers -/

/-- Whether a type is the bare name of a module. -/
def isModule (modules : List String) : TypeExpr → Bool
  | named name [] => modules.contains name
  | _ => false

mutual

/-- A type without the leading module names, everywhere inside it. -/
def withoutModules (modules : List String) : TypeExpr → TypeExpr
  | named name arguments => named name (allWithoutModules modules arguments)
  | member base name arguments =>
    if base.isModule modules then named name (allWithoutModules modules arguments)
    else member (base.withoutModules modules) name (allWithoutModules modules arguments)
  | optional wrapped implicit => optional (wrapped.withoutModules modules) implicit
  | array element => array (element.withoutModules modules)
  | dictionary key value =>
    dictionary (key.withoutModules modules) (value.withoutModules modules)
  | tuple elements => tuple (elementsWithoutModules modules elements)
  | function parameters result isAsync throws =>
    function (allWithoutModules modules parameters) (result.withoutModules modules) isAsync throws
  | attributed attributes specifier base =>
    attributed attributes specifier (base.withoutModules modules)
  | quantified word bound => quantified word (bound.withoutModules modules)
  | composition types => composition (allWithoutModules modules types)
  | metatype base kind => metatype (base.withoutModules modules) kind
  | variadic element => variadic (element.withoutModules modules)

/-- Several types without module names. -/
def allWithoutModules (modules : List String) : List TypeExpr → List TypeExpr
  | [] => []
  | t :: ts => t.withoutModules modules :: allWithoutModules modules ts

/-- Tuple elements without module names. -/
def elementsWithoutModules (modules : List String) :
    List (Option String × TypeExpr) → List (Option String × TypeExpr)
  | [] => []
  | (label, t) :: es => (label, t.withoutModules modules) :: elementsWithoutModules modules es

end

/-! ## Equality -/

mutual

/-- Whether two types are the same. -/
def isSame : TypeExpr → TypeExpr → Bool
  | named n as, named m bs => n == m && areSame as bs
  | member b n as, member c m bs => b.isSame c && n == m && areSame as bs
  | optional t i, optional u j => t.isSame u && i == j
  | array t, array u => t.isSame u
  | dictionary k v, dictionary l w => k.isSame l && v.isSame w
  | tuple es, tuple fs => areSameElements es fs
  | function ps r a t, function qs s b u => areSame ps qs && r.isSame s && a == b && t == u
  | attributed as s t, attributed bs r u => as == bs && s == r && t.isSame u
  | quantified w t, quantified v u => w == v && t.isSame u
  | composition ts, composition us => areSame ts us
  | metatype t k, metatype u l => t.isSame u && k == l
  | variadic t, variadic u => t.isSame u
  | _, _ => false

/-- Whether two lists of types are the same. -/
def areSame : List TypeExpr → List TypeExpr → Bool
  | [], [] => true
  | t :: ts, u :: us => t.isSame u && areSame ts us
  | _, _ => false

/-- Whether two lists of tuple elements are the same. -/
def areSameElements : List (Option String × TypeExpr) → List (Option String × TypeExpr) → Bool
  | [], [] => true
  | (l, t) :: es, (m, u) :: fs => l == m && t.isSame u && areSameElements es fs
  | _, _ => false

end

mutual

theorem isSame_refl : ∀ t : TypeExpr, t.isSame t = true
  | named n as => by simp [isSame, areSame_refl as]
  | member b n as => by simp [isSame, isSame_refl b, areSame_refl as]
  | optional t i => by simp [isSame, isSame_refl t]
  | array t => by simp [isSame, isSame_refl t]
  | dictionary k v => by simp [isSame, isSame_refl k, isSame_refl v]
  | tuple es => by simp [isSame, areSameElements_refl es]
  | function ps r a t => by simp [isSame, areSame_refl ps, isSame_refl r]
  | attributed as s t => by simp [isSame, isSame_refl t]
  | quantified w t => by simp [isSame, isSame_refl t]
  | composition ts => by simp [isSame, areSame_refl ts]
  | metatype t k => by simp [isSame, isSame_refl t]
  | variadic t => by simp [isSame, isSame_refl t]

theorem areSame_refl : ∀ ts : List TypeExpr, areSame ts ts = true
  | [] => rfl
  | t :: ts => by simp [areSame, isSame_refl t, areSame_refl ts]

theorem areSameElements_refl :
    ∀ es : List (Option String × TypeExpr), areSameElements es es = true
  | [] => rfl
  | (l, t) :: es => by simp [areSameElements, isSame_refl t, areSameElements_refl es]

end

mutual

theorem eq_of_isSame : ∀ t u : TypeExpr, t.isSame u = true → t = u
  | named n as, u, h => by
    cases u <;> simp [isSame] at h
    simp [h.1, eq_of_areSame as _ h.2]
  | member b n as, u, h => by
    cases u <;> simp [isSame] at h
    simp [eq_of_isSame b _ h.1.1, h.1.2, eq_of_areSame as _ h.2]
  | optional t i, u, h => by
    cases u <;> simp [isSame] at h
    simp [eq_of_isSame t _ h.1, h.2]
  | array t, u, h => by
    cases u <;> simp [isSame] at h
    simp [eq_of_isSame t _ h]
  | dictionary k v, u, h => by
    cases u <;> simp [isSame] at h
    simp [eq_of_isSame k _ h.1, eq_of_isSame v _ h.2]
  | tuple es, u, h => by
    cases u <;> simp [isSame] at h
    simp [eq_of_areSameElements es _ h]
  | function ps r a t, u, h => by
    cases u <;> simp [isSame] at h
    simp [eq_of_areSame ps _ h.1.1.1, eq_of_isSame r _ h.1.1.2, h.1.2, h.2]
  | attributed as s t, u, h => by
    cases u <;> simp [isSame] at h
    simp [h.1.1, h.1.2, eq_of_isSame t _ h.2]
  | quantified w t, u, h => by
    cases u <;> simp [isSame] at h
    simp [h.1, eq_of_isSame t _ h.2]
  | composition ts, u, h => by
    cases u <;> simp [isSame] at h
    simp [eq_of_areSame ts _ h]
  | metatype t k, u, h => by
    cases u <;> simp [isSame] at h
    simp [eq_of_isSame t _ h.1, h.2]
  | variadic t, u, h => by
    cases u <;> simp [isSame] at h
    simp [eq_of_isSame t _ h]

theorem eq_of_areSame : ∀ ts us : List TypeExpr, areSame ts us = true → ts = us
  | [], us, h => by cases us <;> simp [areSame] at h ⊢
  | t :: ts, us, h => by
    cases us <;> simp [areSame] at h
    simp [eq_of_isSame t _ h.1, eq_of_areSame ts _ h.2]

theorem eq_of_areSameElements :
    ∀ es fs : List (Option String × TypeExpr), areSameElements es fs = true → es = fs
  | [], fs, h => by cases fs <;> simp [areSameElements] at h ⊢
  | (l, t) :: es, fs, h => by
    cases fs <;> simp [areSameElements] at h
    rename_i f fs
    obtain ⟨m, u⟩ := f
    simp at h
    simp [h.1.1, eq_of_isSame t u h.1.2, eq_of_areSameElements es _ h.2]

end

theorem isSame_iff (t u : TypeExpr) : t.isSame u = true ↔ t = u :=
  ⟨eq_of_isSame t u, fun h => h ▸ isSame_refl t⟩

instance : DecidableEq TypeExpr := fun t u => decidable_of_iff _ (isSame_iff t u)

end TypeExpr

end ViewModifiers.Interface
