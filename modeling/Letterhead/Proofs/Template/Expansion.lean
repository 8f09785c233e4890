import Letterhead.Proofs.Text.Lower
import Letterhead.Proofs.Text.Marks
import Letterhead.Template.Basic
import Mathlib.Data.List.Chain
import Mathlib.Data.List.Perm.Basic
import Mathlib.Logic.Function.Basic

/-
  Templates in which tokens stand apart. Tokens are replaced one after the other, each in the text
  that the replacements before it left. A token is a name of letters between percent signs, so when
  neither the plain text nor the values have percent signs, only the end of one token and the start
  of the next could make another one, and a character between them that is no letter rules that out
  (`NoName`). Each replacement then changes its own token alone (`replaceFrom_fill`), and in
  whatever order they come the values take the places of their tokens (`expand_simultaneous`).
-/

namespace Letterhead

namespace Text

variable {s r : Text} {c : Char}

/-- What stands before the first of a character is told by the whole text. -/
theorem eq_of_append_cons_eq {x y : Text} (hs : c ∉ s) (hr : c ∉ r)
    (h : s ++ c :: x = r ++ c :: y) : s = r := by
  have htake (u z : Text) (hu : c ∉ u) : (u ++ c :: z).takeWhile (· ≠ c) = u := by
    rw [List.takeWhile_append_of_pos fun d hd => by
      simpa using fun heq : d = c => hu (heq ▸ hd)]
    simp
  rw [← htake s x hs, h, htake r y hr]

end Text

namespace Template

/-! ## Tokens -/

/-- A name of letters between percent signs. -/
def IsToken (t : Text) : Prop := ∃ name : Text, (∀ c ∈ name, c.isAlpha = true) ∧
  t = '%' :: (name ++ ['%'])

/-- A text does not begin with a name and a percent sign, so a percent sign in front of it begins
no token. -/
def NoName (r : Text) : Prop :=
  ∀ name : Text, (∀ c ∈ name, c.isAlpha = true) → ¬ name ++ ['%'] <+: r

variable {t u s r : Text}

theorem percent_notMem_name {name : Text} (h : ∀ c ∈ name, c.isAlpha = true) : '%' ∉ name := by
  intro hmem
  have hletter := h '%' hmem
  revert hletter
  decide

/-- Plain text with a character that is no letter, or with nothing behind it. -/
theorem noName_append (hs : '%' ∉ s) (h : (∃ c ∈ s, c.isAlpha = false) ∨ r = []) :
    NoName (s ++ r) := by
  rintro name hname ⟨x, hx⟩
  rw [List.append_assoc, List.singleton_append] at hx
  rcases List.append_eq_append_iff.1 hx with ⟨z, rfl, hz⟩ | ⟨z, rfl, hz⟩
  · cases z with
    | cons c z =>
      obtain rfl : '%' = c := (List.cons.inj hz).1
      exact hs (List.mem_append_right name List.mem_cons_self)
    | nil =>
      rcases h with ⟨c, hc, hletter⟩ | rfl
      · rw [List.append_nil] at hc
        rw [hname c hc] at hletter
        cases hletter
      · cases hz
  · rcases h with ⟨c, hc, hletter⟩ | rfl
    · rw [hname c (List.mem_append_left z hc)] at hletter
      cases hletter
    · cases z <;> cases hz

/-- A token stays when another one is replaced. -/
theorem replaceFrom_other (ht : IsToken t) (hu : IsToken u) (hne : t ≠ u) (hr : NoName r)
    (value : Text) : Text.replaceFrom t value 0 (u ++ r) = u ++ Text.replaceFrom t value 0 r := by
  obtain ⟨name, hname, rfl⟩ := ht
  obtain ⟨other, hother, rfl⟩ := hu
  have hopen : ¬ '%' :: (name ++ ['%']) <+: '%' :: (other ++ ('%' :: r)) := by
    rintro ⟨x, hx⟩
    have hsame : name ++ '%' :: x = other ++ '%' :: r := by simpa using hx
    exact hne (by rw [Text.eq_of_append_cons_eq (percent_notMem_name hname)
      (percent_notMem_name hother) hsame])
  have hclose : ¬ '%' :: (name ++ ['%']) <+: '%' :: r := fun hpre =>
    hr name hname (List.cons_prefix_cons.1 hpre).2
  rw [List.cons_append, List.append_assoc, List.singleton_append,
    Text.replaceFrom_cons_of_not_begins hopen,
    Text.replaceFrom_of_notMem (percent_notMem_name hother),
    Text.replaceFrom_cons_of_not_begins hclose, List.cons_append, List.append_assoc,
    List.singleton_append]

theorem bind_some (ht : IsToken t) (value s : Text) :
    bind (t, some value) s = Text.replaceFrom t value 0 s := by
  obtain ⟨name, -, rfl⟩ := ht
  unfold bind
  dsimp only
  by_cases hpart : Text.hasPart ('%' :: (name ++ ['%'])) s = true
  · rw [if_pos hpart, Text.replaceAll, if_neg (List.cons_ne_nil _ _)]
  · rw [if_neg hpart, Text.replaceFrom_of_not_infix (mt Text.hasPart_iff.2 hpart)]

/-! ## Texts with tokens -/

/-- Plain text with tokens in between, each with the plain text behind it. -/
structure Alternation where
  head : Text
  tail : List (Text × Text)

namespace Alternation

/-- The text in which something is written for each token. -/
def fill (a : Alternation) (v : Text → Text) : Text :=
  a.head ++ a.tail.flatMap fun p => v p.1 ++ p.2

/-- The text itself. -/
def text (a : Alternation) : Text := a.fill id

/-- Tokens of a list in text without percent signs, each two of them with a character in between
that is no letter. -/
structure WellSeparated (a : Alternation) (tokens : List Text) : Prop where
  head_plain : '%' ∉ a.head
  token_mem : ∀ p ∈ a.tail, p.1 ∈ tokens
  stretch_plain : ∀ p ∈ a.tail, '%' ∉ p.2
  separated : a.tail.IsChain fun p _ => ∃ c ∈ p.2, c.isAlpha = false

theorem fill_congr {a : Alternation} {v w : Text → Text} (h : ∀ p ∈ a.tail, v p.1 = w p.1) :
    a.fill v = a.fill w := by
  unfold fill
  rw [List.flatMap_congr fun p hp => by rw [h p hp]]

end Alternation

section Run

variable {tokens : List Text} {v : Text → Text} {a : Alternation}

/-- One replacement in the text behind the head: the token gives way to its value wherever it still
stands, and everything else stays. -/
theorem replaceFrom_tail (ht : IsToken t) (hvt : v t = t) {tail : List (Text × Text)}
    (htoken : ∀ p ∈ tail, IsToken p.1) (hv : ∀ p ∈ tail, v p.1 = p.1 ∨ '%' ∉ v p.1)
    (hplain : ∀ p ∈ tail, '%' ∉ p.2)
    (hsep : tail.IsChain fun p _ => ∃ c ∈ p.2, c.isAlpha = false) (value : Text) :
    Text.replaceFrom t value 0 (tail.flatMap fun p => v p.1 ++ p.2) =
      tail.flatMap fun p => Function.update v t value p.1 ++ p.2 := by
  obtain ⟨name, hname⟩ := id ht
  induction tail with
  | nil => rfl
  | cons p ps ih =>
    rw [List.forall_mem_cons] at htoken hv hplain
    have hrest := ih htoken.2 hv.2 hplain.2 hsep.tail
    have hbehind (s : Text) (hs : '%' ∉ s) : Text.replaceFrom t value 0
        (s ++ ps.flatMap fun p => v p.1 ++ p.2) =
          s ++ ps.flatMap fun p => Function.update v t value p.1 ++ p.2 := by
      rw [hname.2] at hrest ⊢
      rw [Text.replaceFrom_of_notMem hs, hrest]
    have hnoName : NoName (p.2 ++ ps.flatMap fun p => v p.1 ++ p.2) := by
      refine noName_append hplain.1 ?_
      cases ps with
      | nil => exact Or.inr rfl
      | cons q ps => exact Or.inl (List.isChain_cons_cons.1 hsep).1
    rw [List.flatMap_cons, List.flatMap_cons, List.append_assoc, List.append_assoc]
    by_cases hp : p.1 = t
    · rw [hp, Function.update_self, hvt]
      have hself := Text.replaceFrom_self '%' (name ++ ['%']) value
        (p.2 ++ ps.flatMap fun p => v p.1 ++ p.2)
      rw [← hname.2] at hself
      rw [hself, hbehind p.2 hplain.1]
    · rw [Function.update_of_ne hp]
      rcases hv.1 with hsame | hfree
      · rw [hsame, replaceFrom_other ht htoken.1 (Ne.symm hp) hnoName, hbehind p.2 hplain.1]
      · have hboth : '%' ∉ v p.1 ++ p.2 := fun hmem =>
          (List.mem_append.1 hmem).elim hfree hplain.1
        rw [← List.append_assoc, hbehind _ hboth, List.append_assoc]

/-- One binding: what is written for its token changes, when the binding has a value. -/
theorem bind_fill {b : Binding} (ha : a.WellSeparated tokens) (htokens : ∀ t ∈ tokens, IsToken t)
    (hb : b.1 ∈ tokens) (hvb : v b.1 = b.1) (hv : ∀ t ∈ tokens, v t = t ∨ '%' ∉ v t) :
    bind b (a.fill v) = a.fill (Function.update v b.1 (b.2.getD (v b.1))) := by
  obtain ⟨t, o⟩ := b
  cases o with
  | none =>
    rw [Option.getD_none, Function.update_eq_self]
    rfl
  | some value =>
    have ht : IsToken t := htokens t hb
    have htail := replaceFrom_tail ht hvb (fun p hp => htokens p.1 (ha.token_mem p hp))
      (fun p hp => hv p.1 (ha.token_mem p hp)) ha.stretch_plain ha.separated value
    obtain ⟨name, hname⟩ := id ht
    rw [bind_some ht, Alternation.fill, hname.2, Text.replaceFrom_of_notMem ha.head_plain,
      ← hname.2, htail]
    rfl

/-- What is written for a token once bindings have been carried out. -/
def valueIn (bs : List Binding) (v : Text → Text) (t : Text) : Text :=
  (bs.lookup t).join.getD (v t)

theorem lookup_of_mem {bs : List Binding} (hnodup : (bs.map (·.1)).Nodup) {b : Binding}
    (hb : b ∈ bs) : bs.lookup b.1 = some b.2 := by
  obtain ⟨before, after, rfl⟩ := List.append_of_mem hb
  rw [List.lookup_eq_some_iff]
  refine ⟨before, after, rfl, fun p hp => ?_⟩
  rw [List.map_append, List.map_cons, List.nodup_append] at hnodup
  rw [bne_iff_ne]
  exact (hnodup.2.2 p.1 (List.mem_map_of_mem hp) b.1 List.mem_cons_self).symm

theorem valueIn_cons {b : Binding} {bs : List Binding} (hb : b.1 ∉ bs.map (·.1)) :
    valueIn (b :: bs) v = valueIn bs (Function.update v b.1 (b.2.getD (v b.1))) := by
  funext t
  unfold valueIn
  by_cases ht : t = b.1
  · have hnone : bs.lookup b.1 = none := by
      rw [List.lookup_eq_none_iff]
      intro p hp
      rw [bne_iff_ne]
      exact fun heq => hb (List.mem_map.2 ⟨p, hp, heq.symm⟩)
    rw [ht, hnone, List.lookup_cons_self, Function.update_self]
    rfl
  · rw [List.lookup_cons, beq_eq_false_iff_ne.2 ht, Function.update_of_ne ht]

theorem foldl_bind_fill (ha : a.WellSeparated tokens) (htokens : ∀ t ∈ tokens, IsToken t)
    {bs : List Binding} (hnodup : (bs.map (·.1)).Nodup) (hbs : ∀ b ∈ bs, b.1 ∈ tokens)
    (hvalues : ∀ b ∈ bs, ∀ value ∈ b.2, '%' ∉ value)
    (hvbs : ∀ b ∈ bs, v b.1 = b.1) (hv : ∀ t ∈ tokens, v t = t ∨ '%' ∉ v t) :
    bs.foldl (fun s b => bind b s) (a.fill v) = a.fill (valueIn bs v) := by
  induction bs generalizing v with
  | nil => rfl
  | cons b bs ih =>
    rw [List.map_cons, List.nodup_cons] at hnodup
    rw [List.forall_mem_cons] at hbs hvalues hvbs
    rw [List.foldl_cons, bind_fill ha htokens hbs.1 hvbs.1 hv, valueIn_cons hnodup.1]
    refine ih hnodup.2 hbs.2 hvalues.2 (fun c hc => ?_) (fun t ht => ?_)
    · have hne : c.1 ≠ b.1 := fun heq => hnodup.1 (List.mem_map.2 ⟨c, hc, heq⟩)
      rw [Function.update_of_ne hne, hvbs.2 c hc]
    · by_cases hbt : t = b.1
      · subst hbt
        rw [Function.update_self]
        cases hvalue : b.2 with
        | none => exact hv b.1 ht
        | some value => exact Or.inr (hvalues.1 value hvalue)
      · rw [Function.update_of_ne hbt]
        exact hv t ht

end Run

/-! ## Built-in tokens -/

/-- The built-in tokens. -/
def tokens : List Text :=
  ["%FullFileName%", "%FileName%", "%CreationYear%", "%CreationMonth%", "%CreationDay%",
    "%CreationTime%", "%CurrentYear%", "%CurrentMonth%", "%CurrentDay%", "%CurrentTime%",
    "%UserName%", "%Project%"].map String.toList

theorem map_bindings (f : Facts) : (bindings f).map (·.1) = tokens := rfl

theorem nodup_tokens : tokens.Nodup := by decide

theorem isToken_of_mem_tokens (h : t ∈ tokens) : IsToken t := by
  have hall : ∀ t ∈ tokens, t.tail.dropLast.all Char.isAlpha = true ∧
      t = '%' :: (t.tail.dropLast ++ ['%']) := by decide
  obtain ⟨hname, heq⟩ := hall t h
  exact ⟨t.tail.dropLast, List.all_eq_true.1 hname, heq⟩

/-- The value of a token, or the token itself when nothing is known. -/
def Facts.value (f : Facts) (t : Text) : Text := valueIn (bindings f) id t

/-- Where tokens stand apart and no value has a percent sign, the values take the places of their
tokens in whatever order the tokens are replaced; everything else stays, unknown tokens included. -/
theorem expand_simultaneous (f : Facts)
    (hf : ∀ b ∈ bindings f, ∀ value ∈ b.2, '%' ∉ value)
    (a : Alternation) (ha : a.WellSeparated tokens) (bs : List Binding)
    (hbs : bs.Perm (bindings f)) (lines : List Text) (lineBreak : Text)
    (hlines : Text.joinWith lineBreak lines = a.text) :
    expand bs lines lineBreak = a.fill f.value := by
  have hkeys : (bs.map (·.1)).Perm tokens := map_bindings f ▸ hbs.map _
  have hnodup : (bs.map (·.1)).Nodup := hkeys.nodup_iff.2 nodup_tokens
  have hnodup' : ((bindings f).map (·.1)).Nodup := map_bindings f ▸ nodup_tokens
  have hrun := foldl_bind_fill (v := id) ha (fun _ => isToken_of_mem_tokens) hnodup
    (fun b hb => hkeys.mem_iff.1 (List.mem_map_of_mem hb))
    (fun b hb => hf b (hbs.mem_iff.1 hb)) (fun _ _ => rfl) (fun _ _ => Or.inl rfl)
  rw [expand, hlines, Alternation.text, hrun]
  refine Alternation.fill_congr fun p hp => ?_
  obtain ⟨b, hb, htoken⟩ := List.mem_map.1 (hkeys.mem_iff.2 (ha.token_mem p hp))
  rw [Facts.value, valueIn, valueIn, ← htoken, lookup_of_mem hnodup hb,
    lookup_of_mem hnodup' (hbs.mem_iff.1 hb)]

/-- A header of two lines, the tokens of which only the line joint and a blank part. -/
def noticeText : Alternation where
  head := "// ".toList
  tail := [("%FileName%".toList, "\n".toList), ("%CurrentYear%".toList, " ".toList),
    ("%Project%".toList, [])]

theorem expand_simultaneous_reversed :
    let f : Facts := { fileName := some "Form.cs".toList, now := ⟨2024, 3, 7, 9, 5, 0⟩ }
    (∀ b ∈ bindings f, ∀ value ∈ b.2, '%' ∉ value) ∧
      noticeText.WellSeparated tokens ∧
      expand (bindings f).reverse ["// %FileName%".toList, "%CurrentYear% %Project%".toList]
        "\n".toList = "// Form.cs\n2024 %Project%".toList := by
  intro f
  have hf : ∀ b ∈ bindings f, ∀ value ∈ b.2, '%' ∉ value := by decide
  have hseparated : noticeText.WellSeparated tokens :=
    ⟨by decide, by decide, by decide, by simp [noticeText]⟩
  refine ⟨hf, hseparated, ?_⟩
  rw [expand_simultaneous f hf noticeText hseparated _ (List.reverse_perm _) _ _ (by decide)]
  decide

end Template
end Letterhead
