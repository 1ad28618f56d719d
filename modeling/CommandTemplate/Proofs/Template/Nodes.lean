import CommandTemplate.Proofs.Template.WellFormed
import CommandTemplate.Template.Identifiers

/-!
The nodes of a template.

`Item.nodes` lists an item and all items inside it.  What holds of each node of a template is
said by membership in `Template.nodes`.
-/

namespace CommandTemplate

mutual

/-- An item and the items inside it. -/
def Item.nodes : Item → List Item
  | .literal text => [.literal text]
  | .identifier name => [.identifier name]
  | .argument index toEnd => [.argument index toEnd]
  | .replacement item required => .replacement item required :: item.nodes
  | .escaped item => .escaped item :: item.nodes
  | .group items => .group items :: Item.nodesOfItems items
  | .call builtin arguments required =>
    .call builtin arguments required :: Item.nodesOfArguments arguments

/-- The nodes of items that follow one another. -/
def Item.nodesOfItems : List Item → List Item
  | [] => []
  | item :: items => item.nodes ++ Item.nodesOfItems items

/-- The nodes of arguments. -/
def Item.nodesOfArguments : List (List Item) → List Item
  | [] => []
  | first :: others => Item.nodesOfItems first ++ Item.nodesOfArguments others

end

/-- The items of a template and the items inside them. -/
def Template.nodes (t : Template) : List Item :=
  Item.nodesOfItems t

/-- The nodes of items are those of each one. -/
theorem Item.mem_nodesOfItems {node : Item} {items : List Item} :
    node ∈ Item.nodesOfItems items ↔ ∃ item ∈ items, node ∈ item.nodes := by
  induction items with
  | nil => simp [Item.nodesOfItems]
  | cons item items ih => simp [Item.nodesOfItems, ih]

/-- The nodes of arguments are those of each item of each one. -/
theorem Item.mem_nodesOfArguments {node : Item} {arguments : List (List Item)} :
    node ∈ Item.nodesOfArguments arguments ↔
      ∃ argument ∈ arguments, ∃ item ∈ argument, node ∈ item.nodes := by
  induction arguments with
  | nil => simp [Item.nodesOfArguments]
  | cons first others ih => simp [Item.nodesOfArguments, ih, Item.mem_nodesOfItems]

/-- What lies in a sound item is sound, or is an identifier in a replacement. -/
theorem Item.Sound.of_mem_nodes {item node : Item} (h : item.Sound) (hnode : node ∈ item.nodes) :
    node.Sound ∨ node.IsIdentifier := by
  induction h with
  | literal htext =>
    rw [Item.nodes, List.mem_singleton] at hnode
    exact hnode ▸ .inl (.literal htext)
  | @replacement item _ hitem =>
    have hnodes : item.nodes = [item] := by cases hitem <;> rfl
    rw [Item.nodes, hnodes, List.mem_pair] at hnode
    rcases hnode with rfl | rfl
    · exact .inl (.replacement hitem)
    · exact .inr hitem
  | call haccepts hseparated hsound ih =>
    rcases List.mem_cons.1 hnode with rfl | hnode
    · exact .inl (.call haccepts hseparated hsound)
    · obtain ⟨argument, hargument, item, hitem, hnode⟩ := Item.mem_nodesOfArguments.1 hnode
      exact ih argument hargument item hitem hnode

namespace Template

theorem sound_of_parse {source : String} {t : Template} (h : parse source = .ok t) :
    ∀ item ∈ t, item.SoundAtTop := by
  obtain ⟨items, u, hread, rfl⟩ := reads_of_parse h
  exact (WellFormed.of_reads hread).sound

/-- A node of a template that was parsed is one of its items or lies in one. -/
theorem sound_of_mem_nodes {source : String} {t : Template} (h : parse source = .ok t)
    {node : Item} (hnode : node ∈ t.nodes) :
    node.SoundAtTop ∨ node.Sound ∨ node.IsIdentifier := by
  obtain ⟨item, hitem, hnode⟩ := Item.mem_nodesOfItems.1 hnode
  have hsound := sound_of_parse h item hitem
  cases hsound with
  | literal htext =>
    rw [Item.nodes, List.mem_singleton] at hnode
    exact .inl (hnode ▸ .literal htext)
  | escaped hinner hliteral =>
    rw [Item.nodes, List.mem_cons] at hnode
    rcases hnode with rfl | hnode
    · exact .inl (.escaped hinner hliteral)
    · exact .inr (hinner.of_mem_nodes hnode)

end Template

/-! ### Identifiers -/

mutual

/-- The names of an item are those of its identifiers. -/
theorem Item.mem_names {name : String} :
    ∀ item : Item, name ∈ item.names ↔ .identifier name ∈ item.nodes
  | .literal _ | .argument _ _ | .identifier _ => by simp [Item.names, Item.nodes]
  | .replacement item _ | .escaped item => by simp [Item.names, Item.nodes, Item.mem_names item]
  | .group items => by simp [Item.names, Item.nodes, Item.mem_namesOfItems items]
  | .call _ arguments _ => by simp [Item.names, Item.nodes, Item.mem_namesOfArguments arguments]

/-- The same of items. -/
theorem Item.mem_namesOfItems {name : String} :
    ∀ items : List Item, name ∈ Item.namesOfItems items ↔ .identifier name ∈ Item.nodesOfItems items
  | [] => by simp [Item.namesOfItems, Item.nodesOfItems]
  | item :: items => by
    rw [Item.namesOfItems, Item.nodesOfItems, List.mem_append, List.mem_append,
      Item.mem_names item, Item.mem_namesOfItems items]

/-- The names in arguments are those of their identifiers. -/
theorem Item.mem_namesOfArguments {name : String} :
    ∀ arguments : List (List Item),
      name ∈ Item.namesOfArguments arguments ↔ .identifier name ∈ Item.nodesOfArguments arguments
  | [] => by simp [Item.namesOfArguments, Item.nodesOfArguments]
  | first :: others => by
    rw [Item.namesOfArguments, Item.nodesOfArguments, List.mem_append, List.mem_append,
      Item.mem_namesOfItems first, Item.mem_namesOfArguments others]

end

end CommandTemplate
