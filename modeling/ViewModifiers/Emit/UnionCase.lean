import ViewModifiers.Emit.Name

/-!
# The cases of a dispatched modifier

Everything that a dispatcher returns carries a case: the chunk of a retained modifier, a
hand-written modifier type, or one of the kinds that a host reads.
-/

namespace ViewModifiers.Emit

/-- The cases of a dispatched modifier. -/
inductive UnionCase
  | chunk (index : Nat)
  | extra (name : String)
  | custom
  | anyText
  | anyImage
  deriving DecidableEq, Repr, Inhabited

/-- The tag of a case. -/
def UnionCase.label : UnionCase → String
  | chunk index => "chunk" ++ toString index
  | extra name => name
  | custom => "_customRegistryModifier"
  | anyText => "_anyTextModifier"
  | anyImage => "_anyImageModifier"

/-- All cases that a dispatcher can return. -/
def unionCases (extraTypes : List String) (chunkCount : Nat) : List UnionCase :=
  (List.range chunkCount).map .chunk ++ extraTypes.map (fun t => .extra (extraCase t))
    ++ [.custom, .anyText, .anyImage]

end ViewModifiers.Emit
