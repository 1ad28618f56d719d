import CommandTemplate.Proofs.Outcome
import CommandTemplate.Proofs.Template.Grammar

/-!
What is read as a template is one by the rules.

`reads_of_readItems` turns a successful reading into a derivation.  A reader is taken apart into
its steps once, here; what holds of all templates that are read is then shown by induction on
derivations.  The induction is on the number of characters that are left: the readers of
arguments are sound for a text if `readItems` is sound for all texts that are no longer
(`ReadBelow`), and `readItems` itself calls them behind a dollar sign only.
-/

namespace CommandTemplate

/-- Is there an ending for one argument at least? -/
def Shape.HasEndings : Shape → Prop
  | .listed endings _ | .identifierFirst endings _ => endings ≠ []
  | .variadic | .cases => True

/-- The shapes of all functions have room for an argument. -/
theorem Builtin.hasEndings_shape (builtin : Builtin) : builtin.shape.HasEndings := by
  cases builtin <;> simp [Builtin.shape, Shape.HasEndings]

namespace Template

open Text (Scanner)
open Text.Scanner (After Past)

/-! ### Single steps -/

/-- What is expected and found comes next, and one character is passed over. -/
theorem of_expect {c : Char} {s : Scanner} {t : Past s} (h : expect c s = .ok t) :
    ∃ rest p, s = ⟨c :: rest, p⟩ ∧ t.1 = ⟨rest, p + 1⟩ := by
  rw [expect] at h
  split at h
  · next u hu =>
    cases h
    exact Scanner.of_accept hu
  · cases h

/-- Of two characters that are accepted one comes next. -/
theorem of_accept_or {c d : Char} {s : Scanner} {t : Past s}
    (h : (s.accept c <|> s.accept d) = some t) :
    ∃ b rest p, (b = c ∨ b = d) ∧ s = ⟨b :: rest, p⟩ ∧ t.1 = ⟨rest, p + 1⟩ := by
  rw [Option.orElse_eq_orElse, Option.orElse_eq_or] at h
  rcases Option.or_eq_some_iff.1 h with h | ⟨-, h⟩
  · obtain ⟨rest, p, hs, ht⟩ := Scanner.of_accept h
    exact ⟨c, rest, p, .inl rfl, hs, ht⟩
  · obtain ⟨rest, p, hs, ht⟩ := Scanner.of_accept h
    exact ⟨d, rest, p, .inr rfl, hs, ht⟩

/-- Whatever comes next, the sign is read by the rules. -/
theorem reads_readSign (s : Scanner) : ReadsSign s (readSign s).1 (readSign s).2.1 := by
  unfold readSign
  split
  · next t ht =>
    obtain ⟨rest, p, rfl, ht⟩ := Scanner.of_accept ht
    show ReadsSign _ true t.1
    rw [ht]
    exact .required
  · next ht => exact .optional (Scanner.peek?_ne_of_accept ht)

/-- An identifier that is read is one by the rules, provided that what has a name and parentheses
was taken for a call before. -/
theorem reads_of_readIdentifier {name : List Char} {start : Nat} {s : Scanner}
    {item : Item} {u : After s} (h : readIdentifier name start s = .ok (item, u))
    (hname : name ≠ [] → s.peek? ≠ some '(') : ReadsIdentifier start name s item u.1 := by
  unfold readIdentifier at h
  by_cases hp : s.peek? = some '('
  · -- a name in front of the parenthesis would make it a call
    obtain rfl : name = [] := Decidable.byContradiction fun hn => hname hn hp
    obtain ⟨t, ht⟩ := Scanner.exists_accept hp
    rw [if_pos rfl, ht] at h
    obtain ⟨item', hitem, h⟩ := bind_eq_ok.1 h
    obtain ⟨w, hw, h⟩ := bind_eq_ok.1 h
    cases h
    obtain ⟨rest', q, hv, hw⟩ := of_expect hw
    have hrun : t.1.run isIdentifierChar = (_, ⟨')' :: rest', q⟩) := Prod.ext rfl hv
    obtain ⟨rest, p, rfl, ht⟩ := Scanner.of_accept ht
    show ReadsIdentifier start [] _ item w.1
    rw [hw]
    rw [ht] at hrun hitem
    exact .parenthesised hrun hitem
  · rw [Scanner.accept_eq_none hp, ite_self] at h
    obtain ⟨item', hitem, h⟩ := bind_eq_ok.1 h
    cases h
    exact .bare hp rfl hitem

/-- What is left is not changed where only the scanner before it is written differently. -/
theorem val_cast {s t : Scanner} (h : t = s) (u : After s) : (h ▸ u : After t).1 = u.1 := by
  subst h
  rfl

/-! ### Arguments and calls -/

/-- Templates with fewer than `n` characters from their beginning on are read by the rules.  What
is left over depends on the scanner `s`, so that `s` cannot be rewritten to `s'` in a reading. -/
def ReadBelow (n : Nat) : Prop :=
  ∀ {d : Nat} {e : Ending} {s s' : Scanner} {items : Template} {u : After s},
    s.rest.length < n → readItems d e s = .ok (items, u) → s = s' → ReadsItems d e s' items u.1

section

variable {n : Nat} (ih : ReadBelow n)

include ih

/-- A first argument is a template or an identifier by the rules. -/
theorem reads_of_readFirst {d : Nat} {s : Scanner} {items : Template} {u : After s}
    (hn : s.rest.length < n) (h : readFirst d s = .ok (items, u)) :
    ReadsFirst d s items u.1 := by
  unfold readFirst at h
  split at h
  · next hp => exact .template hp (ih hn h rfl)
  · next hp =>
    obtain ⟨item, hitem, h⟩ := bind_eq_ok.1 h
    cases h
    exact .identifier hp rfl hitem

/-- Listed arguments are read by the rules, one ending after the other. -/
theorem reads_of_readListed {d least : Nat} {endings : List Ending} {s s' : Scanner}
    {arguments : List Template} {u : After s} (hendings : endings ≠ []) (hn : s.rest.length < n)
    (h : readListed d endings least s = .ok (arguments, u)) (hs : s = s') :
    ReadsListed d endings least s' arguments u.1 := by
  induction endings generalizing least s s' arguments with
  | nil => exact absurd rfl hendings
  | cons e endings hrec =>
    subst hs
    unfold readListed at h
    obtain ⟨⟨argument, t⟩, hargument, h⟩ := bind_eq_ok.1 h
    have hitems := ih hn hargument rfl
    have htl := t.2.length_le
    dsimp only at h
    split at h
    · next v hv =>
      obtain ⟨⟨arguments', w⟩, harguments, h⟩ := bind_eq_ok.1 h
      cases h
      -- a comma is accepted only if there are more endings
      split at hv
      · cases hv
      next hmore =>
      have hvl := v.2.2
      obtain ⟨rest, p, ht, hv⟩ := Scanner.of_accept hv
      have hread := hrec hmore (by omega) harguments hv
      rw [ht] at hitems
      exact .more hitems hmore hread
    -- no comma is accepted, so this is the last argument, and enough of them are there
    · split at h
      · cases h
      next hleast =>
      obtain ⟨v, hv, h⟩ := bind_eq_ok.1 h
      cases h
      obtain ⟨rest, p, ht, hv⟩ := of_expect hv
      rw [ht] at hitems
      show ReadsListed d _ least s _ v.1
      rw [hv]
      exact .last hitems (Nat.le_of_not_lt hleast)

/-- Any number of arguments is read by the rules. -/
theorem reads_of_readMany {d : Nat} {s s' : Scanner} {arguments : List Template} {u : After s}
    (hn : s.rest.length < n) (h : readMany d s = .ok (arguments, u)) (hs : s = s') :
    ReadsMany d s' arguments u.1 := by
  subst hs
  unfold readMany at h
  obtain ⟨⟨argument, t⟩, hargument, h⟩ := bind_eq_ok.1 h
  have hitems := ih hn hargument rfl
  have htl := t.2.length_le
  dsimp only at h
  split at h
  · next v hv =>
    obtain ⟨⟨arguments', w⟩, harguments, h⟩ := bind_eq_ok.1 h
    have hvl := v.2.2
    -- stated before `h` is taken apart, since what is left over depends on the scanner
    have hread s' (hs : v.1 = s') := reads_of_readMany (by omega) harguments hs
    cases h
    obtain ⟨rest, p, ht, hv⟩ := Scanner.of_accept hv
    rw [ht] at hitems
    exact .more hitems (hread _ hv)
  · obtain ⟨v, hv, h⟩ := bind_eq_ok.1 h
    cases h
    obtain ⟨rest, p, ht, hv⟩ := of_expect hv
    rw [ht] at hitems
    show ReadsMany d s _ v.1
    rw [hv]
    exact .last hitems
termination_by s.rest.length

/-- Cases are read by the rules, with the keys that were seen before them. -/
theorem reads_of_readCases {d : Nat} {seen : List Template} {s s' : Scanner}
    {cases : List Template} {u : After s} (hn : s.rest.length < n)
    (h : readCases d seen s = .ok (cases, u)) (hs : s = s') :
    ReadsCases d seen s' cases u.1 := by
  subst hs
  unfold readCases at h
  obtain ⟨⟨key, t⟩, hkey, h⟩ := bind_eq_ok.1 h
  have hitems := ih hn hkey rfl
  have htl := t.2.length_le
  dsimp only at h
  split at h
  -- no separator behind the key, so it is the default
  · split at h
    · cases h
    next hseen =>
    obtain ⟨v, hv, h⟩ := bind_eq_ok.1 h
    cases h
    obtain ⟨rest, p, ht, hv⟩ := of_expect hv
    rw [ht] at hitems
    show ReadsCases d seen s _ v.1
    rw [hv]
    exact .default hitems hseen
  · next v hv =>
    have hvl := v.2.2
    -- a colon or a comma behind the key, so an output follows
    obtain ⟨c, rest, p, hc, ht, hv⟩ := of_accept_or hv
    rw [ht] at hitems
    obtain ⟨⟨output, w⟩, houtput, h⟩ := bind_eq_ok.1 h
    have houtput := ih (by omega) houtput hv
    have hwl := w.2.length_le
    dsimp only at h
    split at h
    · cases h
    next hkey =>
    split at h
    · next x hx =>
      obtain ⟨⟨cases', y⟩, hcases, h⟩ := bind_eq_ok.1 h
      have hxl := x.2.2
      have hread s' (hs : x.1 = s') := reads_of_readCases (by omega) hcases hs
      cases h
      obtain ⟨rest', q, hw, hx⟩ := Scanner.of_accept hx
      rw [hw] at houtput
      exact .more hitems hc houtput hkey (hread _ hx)
    · obtain ⟨x, hx, h⟩ := bind_eq_ok.1 h
      cases h
      obtain ⟨rest', q, hw, hx⟩ := of_expect hx
      rw [hw] at houtput
      show ReadsCases d seen s _ x.1
      rw [hx]
      exact .last hitems hc houtput hkey
termination_by s.rest.length

/-- Arguments are read by the rules of their shape. -/
theorem reads_of_readArguments {d : Nat} {shape : Shape} {s s' : Scanner}
    {arguments : List Template} {u : After s} (hshape : shape.HasEndings)
    (hn : s.rest.length < n) (h : readArguments d shape s = .ok (arguments, u)) (hs : s = s') :
    ReadsShape d shape s' arguments u.1 := by
  subst hs
  unfold readArguments at h
  split at h
  · unfold readSwitch at h
    obtain ⟨⟨value, t⟩, hvalue, h⟩ := bind_eq_ok.1 h
    obtain ⟨v, hv, h⟩ := bind_eq_ok.1 h
    obtain ⟨⟨cases', w⟩, hcases, h⟩ := bind_eq_ok.1 h
    cases h
    have htl := t.2.length_le
    have hvl := v.2.2
    obtain ⟨rest, p, ht, hv⟩ := of_expect hv
    have hfirst := reads_of_readFirst ih hn hvalue
    have hread := reads_of_readCases ih (by omega) hcases hv
    rw [ht] at hfirst
    exact .cases hfirst hread
  · exact .variadic (reads_of_readMany ih hn h rfl)
  · obtain ⟨⟨first, t⟩, hfirst, h⟩ := bind_eq_ok.1 h
    obtain ⟨v, hv, h⟩ := bind_eq_ok.1 h
    obtain ⟨⟨arguments', w⟩, harguments, h⟩ := bind_eq_ok.1 h
    cases h
    have htl := t.2.length_le
    have hvl := v.2.2
    obtain ⟨rest, p, ht, hv⟩ := of_expect hv
    have hfirst := reads_of_readFirst ih hn hfirst
    have hread := reads_of_readListed ih hshape (by omega) harguments hv
    rw [ht] at hfirst
    exact .identifierFirst hfirst hread
  · next endings least =>
    split at h
    · next t ht =>
      cases h
      -- the arguments may be left out only where none is asked for
      split at ht
      · next hleast =>
        subst hleast
        obtain ⟨rest, p, rfl, ht⟩ := Scanner.of_accept ht
        show ReadsShape d _ _ _ t.1
        rw [ht]
        exact .nothing
      · cases ht
    · next hnone =>
      refine .listed (fun hleast => ?_) (reads_of_readListed ih hshape hn h rfl)
      rw [if_pos hleast] at hnone
      exact Scanner.peek?_ne_of_accept hnone

/-- The default of a look-up is read by the rules, or there is none. -/
theorem reads_of_readDefault {d : Nat} {s : Scanner} {arguments : List Template} {u : After s}
    (hn : s.rest.length < n) (h : readDefault d s = .ok (arguments, u)) :
    ReadsDefault d s arguments u.1 := by
  unfold readDefault at h
  split at h
  · next v hv =>
    obtain ⟨⟨argument, w⟩, hargument, h⟩ := bind_eq_ok.1 h
    obtain ⟨x, hx, h⟩ := bind_eq_ok.1 h
    cases h
    have hvl := v.2.2
    obtain ⟨rest, p, rfl, hv⟩ := Scanner.of_accept hv
    -- the parenthesis that is expected is what the argument leaves over
    obtain ⟨rest', q, hw, hx⟩ := of_expect hx
    have hread := ih (by omega) hargument hv
    rw [hw] at hread
    show ReadsDefault d _ _ x.1
    rw [hx]
    exact .given hread
  · obtain ⟨x, hx, h⟩ := bind_eq_ok.1 h
    cases h
    obtain ⟨rest, p, rfl, hx⟩ := of_expect hx
    show ReadsDefault d _ _ x.1
    rw [hx]
    exact .nothing

/-- A call is read by the rules, be it a look-up or another function. -/
theorem reads_of_readCall {d start : Nat} {name : List Char} {required : Bool} {s : Scanner}
    {item : Item} {u : After s} (hn : s.rest.length ≤ n)
    (h : readCall d name start required s = .ok (item, u)) :
    ∃ builtin arguments, item = .call builtin arguments required ∧
      ReadsCall d name s builtin arguments u.1 := by
  unfold readCall at h
  dsimp only at h
  split at h
  · next hj =>
    obtain ⟨t, ht, h⟩ := bind_eq_ok.1 h
    obtain ⟨⟨path, v⟩, hpath, h⟩ := bind_eq_ok.1 h
    obtain ⟨⟨arguments, w⟩, harguments, h⟩ := bind_eq_ok.1 h
    cases h
    have htl := t.2.2
    have hvl := v.2.length_le
    obtain ⟨rest, p, rfl, ht⟩ := of_expect ht
    -- the path of a look-up ends where its default begins
    have hread := reads_of_readDefault ih (by dsimp only; omega) harguments
    exact ⟨_, _, rfl, .lookup hj ht hpath hread⟩
  · next hj =>
    split at h
    · cases h
    · next builtin hbuiltin =>
      obtain ⟨t, ht, h⟩ := bind_eq_ok.1 h
      obtain ⟨⟨arguments, v⟩, harguments, h⟩ := bind_eq_ok.1 h
      cases h
      have htl := t.2.2
      obtain ⟨rest, p, rfl, ht⟩ := of_expect ht
      have hread :=
        reads_of_readArguments ih builtin.hasEndings_shape (by omega) harguments ht
      exact ⟨_, _, rfl, .plain hj hbuiltin hread⟩

/-- A special is read by the rules: its sign, its name, and then the call or the identifier. -/
theorem reads_of_readSpecial {d : Nat} {s : Scanner} {item : Item} {u : After s}
    (hn : s.rest.length ≤ n) (h : readSpecial d s = .ok (item, u)) :
    ReadsSpecial d s item u.1 := by
  unfold readSpecial at h
  by_cases hd : maxNesting ≤ d
  · rw [if_pos hd] at h
    cases h
  simp only [if_neg hd] at h
  have hd := Nat.lt_of_not_le hd
  split at h
  · next hcall =>
    obtain ⟨⟨item', w⟩, hitem, h⟩ := bind_eq_ok.1 h
    cases h
    have htl := (readSign s).2.2.length_le
    have hul := ((readSign s).2.1.readWhile Char.isAlpha).2.2.length_le
    obtain ⟨builtin, arguments, rfl, hread⟩ := reads_of_readCall ih (by omega) hitem
    exact .call hd (reads_readSign s) rfl hcall.1 hread
  · next hcall =>
    obtain ⟨⟨item', w⟩, hitem, h⟩ := bind_eq_ok.1 h
    cases h
    exact .replacement hd (reads_readSign s) rfl (reads_of_readIdentifier hitem
      fun hname hp => hcall ⟨hname, hp⟩)

end

/-! ### Templates -/

/-- Templates of any length are read by the rules. -/
theorem readBelow (n : Nat) : ReadBelow n := by
  induction n with
  | zero => exact fun hn => absurd hn (Nat.not_lt_zero _)
  | succ n ih =>
    intro d e s s' items u hn h hs
    subst hs
    unfold readItems at h
    dsimp only at h
    split at h
    · next rest p hr =>
      obtain ⟨⟨item, v⟩, hitem, h⟩ := bind_eq_ok.1 h
      obtain ⟨⟨items', w⟩, hitems, h⟩ := bind_eq_ok.1 h
      have htl := (readText e s.rest s.position).2.2.length_le
      have hvl := v.2.length_le
      simp only [hr, List.length_cons] at htl hvl
      -- the special begins behind the dollar sign, so it has fewer characters
      have hspecial := reads_of_readSpecial ih (by dsimp only; omega) hitem
      have hread := ih (by dsimp only; omega) hitems rfl
      cases h
      -- the rest behind the dollar sign is still written as what `readText` left over
      show ReadsItems d e s _ (_ : After (readText e s.rest s.position).2.1).1
      rw [val_cast hr]
      exact .special (Prod.ext rfl hr) hspecial hread
    · next hr =>
      cases h
      refine .text rfl fun hp => ?_
      obtain ⟨rest, hs⟩ := Scanner.eq_cons_of_peek? hp
      exact hr rest _ hs

/-- What is read as a template is one by the rules. -/
theorem reads_of_readItems {d : Nat} {e : Ending} {s : Scanner} {items : Template} {u : After s}
    (h : readItems d e s = .ok (items, u)) : ReadsItems d e s items u.1 :=
  readBelow (s.rest.length + 1) (Nat.lt_succ_self _) h rfl

/-- What is parsed is a template by the rules, with its specials escaped. -/
theorem reads_of_parse {text : String} {t : Template} (h : parse text = .ok t) :
    ∃ items u, ReadsItems 0 .none (.ofString text) items u ∧ t = items.map Item.atTop := by
  obtain ⟨⟨items, u⟩, hitems, h⟩ := bind_eq_ok.1 h
  cases h
  exact ⟨items, u.1, reads_of_readItems hitems, rfl⟩

end Template

end CommandTemplate
