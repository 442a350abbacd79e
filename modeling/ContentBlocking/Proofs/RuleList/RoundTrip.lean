import ContentBlocking.Proofs.Json.RoundTrip

/-!
# Rule lists survive their text

A compiled rule list is written to a file and read again by whoever applies it. Both ends agree on
every rule, in either layout.
-/

namespace ContentBlocking

open Json

theorem lookup_resourceType (type : ResourceType) :
    ResourceType.byName.lookup type.name = some type := by
  cases type <;> decide

theorem lookup_loadType (type : LoadType) : LoadType.byName.lookup type.name = some type := by
  cases type <;> decide

theorem lookup_loadContext (context : LoadContext) :
    LoadContext.byName.lookup context.name = some context := by
  cases context <;> decide

theorem trigger_standsFor (trigger : Trigger) :
    trigger.toDocument.StandsFor Trigger.decode trigger := by
  have urlFilter := text_standsFor trigger.urlFilter
  have domains : ∀ meaning : List String,
      (Document.texts meaning).StandsFor (list text) meaning := texts_standsFor
  have resourceTypes : ∀ meaning, (Document.list (fun type => .text type.name) meaning).StandsFor
      (list (named ResourceType.byName)) meaning := fun meaning =>
    list_standsFor fun type _ => named_standsFor (lookup_resourceType type)
  have loadTypes : ∀ meaning, (Document.list (fun type => .text type.name) meaning).StandsFor
      (list (named LoadType.byName)) meaning := fun meaning =>
    list_standsFor fun type _ => named_standsFor (lookup_loadType type)
  have loadContexts : ∀ meaning,
      (Document.list (fun context => .text context.name) meaning).StandsFor
        (list (named LoadContext.byName)) meaning := fun meaning =>
    list_standsFor fun context _ => named_standsFor (lookup_loadContext context)
  refine Fills.standsFor (.append (.append (.append (.append (.append
    (.needed urlFilter rfl ?_)
    (.maybe (fun meaning _ => domains meaning) rfl ?_ rfl))
    (.maybe (fun meaning _ => domains meaning) rfl ?_ rfl))
    (.maybe (fun meaning _ => resourceTypes meaning) rfl ?_ rfl))
    (.maybe (fun meaning _ => loadTypes meaning) rfl ?_ rfl))
    (.maybe (fun meaning _ => loadContexts meaning) rfl ?_ rfl)) ?_ rfl
  all_goals simp [Trigger.fields, RecordField.needed, RecordField.maybe]

/-- The type of an action stands in front of its other members. -/
theorem collectMembers_type (limit : Nat) {name : String} {action : ActionName}
    (found : ActionName.byName.lookup name = some action) (rest : List Member) :
    collectMembers limit none [] ((.ofString "type", .text (.ofString name)) :: rest) =
      collectMembers limit (some action) [] rest := by
  have decoded : variantName ActionName.byName (.text (.ofString name)) = .ok action := by
    simp only [variantName, orFault_decode, bind, Except.bind, found]
    rfl
  simp [collectMembers, orFault_decode, bind, Except.bind, decoded]

theorem collectMembers_text (limit : Nat) (action : ActionName) {name : String}
    (other : name ≠ "type") (content : String) :
    collectMembers limit (some action) [] [(.ofString name, .text (.ofString content))] =
      .ok (some action, [(name, .text (.ofString content))]) := by
  simp [collectMembers, collect, orFault_decode, bind, Except.bind, other, Except.map]

theorem action_standsFor (limit : Nat) (action : Action) :
    action.toDocument.StandsFor (Action.decode limit) action where
  numberless := by
    cases action <;> simp [Action.toDocument, Document.Numberless, MembersNumberless]
  decoded := by
    cases action with
    | block =>
        have found : ActionName.byName.lookup "block" = some .block := by decide
        simp only [Action.toDocument, Document.value, memberValues, Action.decode]
        rw [collectMembers_type limit found]
        rfl
    | ignorePreviousRules =>
        have found : ActionName.byName.lookup "ignore-previous-rules" =
            some .ignorePreviousRules := by decide
        simp only [Action.toDocument, Document.value, memberValues, Action.decode]
        rw [collectMembers_type limit found]
        rfl
    | cssDisplayNone selector =>
        have found : ActionName.byName.lookup "css-display-none" = some .cssDisplayNone := by decide
        have other : "selector" ≠ "type" := by decide
        have selected : readSelector none [("selector", .text (.ofString selector))] =
            .ok selector := by
          simp [readSelector, text, orFault_decode, bind, Except.bind]
        simp only [Action.toDocument, Document.value, memberValues, Action.decode]
        rw [collectMembers_type limit found, collectMembers_text limit _ other]
        simp [bind, Except.bind, Ending.check, Action.ofMembers, selected, Except.map]

theorem rule_standsFor (outer : Nat) (rule : Rule) :
    rule.toDocument.StandsFor (Rule.decode outer) rule := by
  have trigger := trigger_standsFor rule.trigger
  have action := action_standsFor (nestingLimit - 2 - outer) rule.action
  refine Fills.standsFor (.append (.needed trigger rfl ?_) (.needed action rfl ?_)) ?_ rfl
  all_goals simp [Rule.fields, RecordField.needed]

/-- The text of a rule list is decoded as this list. -/
theorem RuleList.decodeString_toDocument (layout : Layout) (rules : List Rule) :
    decodeString RuleList.decode ((RuleList.toDocument rules).render layout) = .ok rules := by
  have stands : (RuleList.toDocument rules).StandsFor RuleList.decode rules :=
    list_standsFor fun rule _ => rule_standsFor 1 rule
  exact stands.decodeString_render layout

end ContentBlocking
