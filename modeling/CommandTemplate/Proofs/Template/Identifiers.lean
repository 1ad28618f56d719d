import CommandTemplate.Proofs.Template.Nodes
import CommandTemplate.Proofs.Text.Names

/-!
The identifiers that a template is asked for.

A template is asked for its identifiers, for those with a prefix and for those that it requires.
Each question goes through the items in its own way; `Template.identifiers_spec` says how the
answers go together, whether the template was parsed or not.
-/

namespace CommandTemplate

/-! ### Required names -/

/-- The arguments that are checked are among the arguments. -/
theorem Item.checkedNames_subset (builtin : Builtin) (count place : Nat)
    (arguments : List Template) :
    checkedNames builtin count place arguments ⊆ namesOfArguments arguments := by
  induction arguments generalizing place with
  | nil => exact List.Subset.refl []
  | cons first others ih =>
    intro name hname
    rw [checkedNames, List.mem_append] at hname
    rw [namesOfArguments, List.mem_append]
    rcases hname with hname | hname
    · -- an argument that is not checked has no names to give
      left
      split at hname
      · exact hname
      · cases hname
    · exact .inr (ih (place + 1) hname)

mutual

/-- What an item requires it mentions. -/
theorem Item.requiredNames_subset : ∀ item : Item, item.requiredNames ⊆ item.names
  | .literal _ | .argument _ _ | .identifier _ => List.nil_subset _
  | .replacement item required => by
    have hitem := Item.requiredNames_subset item
    cases required with
    | false => exact hitem
    | true => exact List.append_subset.2 ⟨List.Subset.refl item.names, hitem⟩
  | .escaped item => Item.requiredNames_subset item
  | .group items => Item.requiredNamesOfItems_subset items
  | .call builtin arguments required => by
    have harguments := Item.requiredNamesOfArguments_subset arguments
    cases required with
    | false => exact harguments
    | true =>
      exact List.append_subset.2 ⟨Item.checkedNames_subset builtin _ 0 arguments, harguments⟩

/-- What is required is named. -/
theorem Item.requiredNamesOfItems_subset :
    ∀ items : List Item, Item.requiredNamesOfItems items ⊆ Item.namesOfItems items
  | [] => List.Subset.refl []
  | item :: items =>
    List.append_subset.2
      ⟨List.subset_append_of_subset_left _ (Item.requiredNames_subset item),
        List.subset_append_of_subset_right _ (Item.requiredNamesOfItems_subset items)⟩

/-- What is required in arguments is mentioned in them. -/
theorem Item.requiredNamesOfArguments_subset :
    ∀ arguments : List (List Item),
      Item.requiredNamesOfArguments arguments ⊆ Item.namesOfArguments arguments
  | [] => List.Subset.refl []
  | first :: others =>
    List.append_subset.2
      ⟨List.subset_append_of_subset_left _ (Item.requiredNamesOfItems_subset first),
        List.subset_append_of_subset_right _ (Item.requiredNamesOfArguments_subset others)⟩

end

/-! ### Answers -/

namespace Template

/-- The identifiers are the names that occur, in order. -/
theorem identifiers_eq (t : Template) : t.identifiers = Text.ascending (Item.namesOfItems t) := by
  have hall : (Item.namesOfItems t).filter (Text.startsWith "") = Item.namesOfItems t :=
    List.filter_eq_self.2 fun name _ => List.isPrefixOf_nil_left
  rw [identifiers, identifiersStarting, hall]

/-- The identifiers with a prefix are those among all identifiers, which are the names of all
identifier nodes; the required ones are some of them. -/
theorem identifiers_spec (t : Template) (front : String) :
    t.identifiersStarting front =
        t.identifiers.filter (fun name => front.toList <+: name.toList) ∧
      (∀ name, name ∈ t.identifiers ↔ .identifier name ∈ t.nodes) ∧
      t.requiredIdentifiers ⊆ t.identifiers := by
  refine ⟨?_, fun name => ?_, fun name hname => ?_⟩
  · have hstarts : Text.startsWith front = fun name => decide (front.toList <+: name.toList) := by
      funext name
      rw [Text.startsWith, Bool.eq_iff_iff, List.isPrefixOf_iff_prefix, decide_eq_true_iff]
    rw [identifiers_eq, identifiersStarting, Text.ascending_filter, hstarts]
  · rw [identifiers_eq, Text.mem_ascending]
    exact Item.mem_namesOfItems t
  · rw [requiredIdentifiers, Text.mem_ascending] at hname
    rw [identifiers_eq, Text.mem_ascending]
    exact Item.requiredNamesOfItems_subset t hname

end Template

end CommandTemplate
