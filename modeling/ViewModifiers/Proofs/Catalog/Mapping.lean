import ViewModifiers.Catalog.Mapping

/-!
# What a signature depends on

Of a function only two things enter its signature: the parameters, and which of its generic
parameters stand for views.
-/

namespace ViewModifiers.Catalog

open Interface Config

variable {c : Configuration} {f g : DeclaredFunction}

theorem argumentType_congr (same : standsForView c f = standsForView c g) (t : TypeExpr) :
    argumentType c f t = argumentType c g t := by
  fun_induction argumentType c f t with
  | case1 attributes specifier base ih => exact ih
  | case2 wrapped implicit ih => rw [argumentType, ih]
  | case3 ps result a t void => rw [argumentType, if_pos void]
  | case4 ps result a t void => rw [argumentType, if_neg void]
  | case5 word bound demands => rw [argumentType, if_pos demands]
  | case6 word bound demands => rw [argumentType, if_neg demands]
  | case7 argument ih => rw [argumentType, if_pos rfl, ih]
  | case8 name argument other => rw [argumentType, if_neg other]
  | case9 => rw [argumentType, if_pos rfl]
  | case10 name other stands => rw [argumentType, if_neg other, ← same, if_pos stands]
  | case11 name other stands => rw [argumentType, if_neg other, ← same, if_neg stands]
  | case12 t => rw [argumentType] <;> assumption

theorem parameterOf_congr (same : standsForView c f = standsForView c g) :
    parameterOf c f = parameterOf c g := by
  funext p
  rw [parameterOf, parameterOf, argumentType_congr same]

/-- Overloads that share their parameters, and their generic parameters that stand for views, have
the same signature. -/
theorem signatureOf_congr (same : standsForView c f = standsForView c g)
    (alike : f.parameters = g.parameters) : signatureOf c f = signatureOf c g := by
  rw [signatureOf, signatureOf, parameterOf_congr same, alike]

end ViewModifiers.Catalog
