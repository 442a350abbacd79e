import ContentBlocking.Compile.Plan

/-!
# Rules that plans emit

Groups are made of six kinds of rules, whatever the plan. So what holds of each kind holds of all
that is emitted: a list of load contexts has the top frame, and nothing but a block exempts pages,
which are then the pages of the owner.
-/

namespace ContentBlocking.RuleContext

variable {context : RuleContext} {plan : Plan} {rule : Rule}

/-- The rules of which groups are made. -/
inductive Makes (context : RuleContext) : Rule → Prop where
  | block : Makes context context.block
  | blockOn (restriction : Restriction) : Makes context (context.blockOn restriction)
  | blockOnForeign (restriction : Restriction) : Makes context (context.blockOnForeign restriction)
  | allow : Makes context context.allow
  | allowOn (restriction : Restriction) : Makes context (context.allowOn restriction)
  | allowTopFramePopups : Makes context context.allowTopFramePopups

theorem makes_allowWhere (options : Option Restriction) :
    context.Makes (context.allowWhere options) := by
  cases options with
  | none => exact Makes.allow
  | some restriction => exact Makes.allowOn restriction

/-- Every rule of a group is made in one of the listed ways. -/
theorem makes_of_mem_emit (member : rule ∈ context.emit plan) :
    context.Makes rule := by
  have all : ∀ rule ∈ context.emit plan, context.Makes rule := by
    cases plan with
    | blocking plan =>
        cases plan <;>
          simp [emit, emitBlocking, Makes.block, Makes.blockOn, Makes.allow, Makes.allowOn,
            makes_allowWhere]
    | ignoring plan =>
        cases plan <;>
          simp [emit, emitIgnoring, Makes.block, Makes.blockOnForeign, Makes.allowOn,
            Makes.allowTopFramePopups, makes_allowWhere]
  exact all rule member

theorem topFrame_mem_of_mem_emit (member : rule ∈ context.emit plan) :
    ∀ list ∈ rule.trigger.loadContext, LoadContext.topFrame ∈ list := by
  intro list given
  cases makes_of_mem_emit member with
  | allowTopFramePopups =>
      have frames : [LoadContext.topFrame] = list := Option.some.inj given
      rw [← frames]
      exact List.mem_singleton_self _
  | _ => cases given

/-- Only blocks exempt pages, and these are the pages of the owner. -/
theorem unlessDomain_of_mem_emit (member : rule ∈ context.emit plan) :
    rule.trigger.unlessDomain = none ∨
      rule.action = .block ∧ rule.trigger.unlessDomain = context.ownerDomains := by
  cases makes_of_mem_emit member with
  | block => exact Or.inr ⟨rfl, rfl⟩
  | blockOnForeign restriction => exact Or.inr ⟨rfl, rfl⟩
  | _ => exact Or.inl rfl

end ContentBlocking.RuleContext
