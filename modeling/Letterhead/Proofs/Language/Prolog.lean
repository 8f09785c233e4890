import Letterhead.Proofs.Comment.Grammar
import Letterhead.Proofs.Pattern.Advance

/-
  What the built-in skip patterns cover. The interpreter line of a script runs to the first line
  feed, through any CR on the way (`cutStart?_shebang`). The prolog of an XML document is not found
  when its declaration holds a line feed (`cutStart?_xmlProlog_of_mem`), and covers the declaration
  when it holds none (`cutStart?_xmlProlog_of_not_mem`).
-/

namespace Letterhead

open Pattern

/-- A pattern is settled by its written form. -/
theorem Comment.Skip.eq_of_source {k k' : Comment.Skip} (h : k.source = k'.source) : k = k' := by
  obtain ⟨source, pattern, reads⟩ := k
  obtain ⟨source', pattern', reads'⟩ := k'
  obtain rfl : source = source' := h
  obtain rfl : pattern = pattern' := Option.some.inj (reads.symm.trans reads')
  rfl

namespace Language.BuiltIn

/-! ## Interpreter lines -/

theorem cutStart?_shebang {t : Text} (ht : "#!".toList <+: t) :
    cutStart? shebang.pattern t = some (t.takeWhile (· != '\n'), t.dropWhile (· != '\n')) := by
  obtain ⟨s, rfl⟩ := ht
  have hword : ∀ c ∈ "#!".toList, (CharSet.ofCode false .fold c.toNat).contains c = true :=
    List.all_eq_true.1 (by decide)
  have hline : ∀ c ∈ "#!".toList, (c != '\n') = true := List.all_eq_true.1 (by decide)
  obtain ⟨m, hm, hplace⟩ : ∃ m, Pattern.run false shebang.pattern .done
      (.start ("#!".toList ++ s)) ⟨.start ("#!".toList ++ s), []⟩ = .matched m ∧ m.place = _ := by
    obtain ⟨m, hm, hplace⟩ := run_greedy .allButLineFeed "#!".toList s
      ⟨.start ("#!".toList ++ s), []⟩
    exact ⟨m, (run_word (l := []) hword).trans hm, hplace⟩
  have htake : ("#!".toList ++ s).takeWhile (· != '\n') = "#!".toList ++ s.takeWhile (· != '\n') :=
    List.takeWhile_append_of_pos hline
  have hdrop : ("#!".toList ++ s).dropWhile (· != '\n') = s.dropWhile (· != '\n') :=
    List.dropWhile_append_of_pos hline
  rw [cutStart?_of_matched hm, hplace, htake, hdrop, Place.between, List.reverse_reverse]
  rfl

/-! ## Declarations -/

/-- A document type behind a declaration, and what parts the two. -/
def doctypeBelow : Pattern :=
  Pattern.capture 1 (run (.anyOf false .exact [.named .space false false]) .greedy :: doctype)

/-- What the prolog pattern asks for behind the text of a declaration. -/
def declarationEnd : Pattern := word "?>" ++ [.repeated 0 (some 1) .greedy doctypeBelow]

theorem xmlProlog_eq :
    xmlProlog.pattern = word "<?xml" ++ (run .allButLineFeed .lazy :: declarationEnd) := by
  unfold xmlProlog declarationEnd doctypeBelow
  dsimp only
  rw [List.append_assoc, List.append_assoc, List.singleton_append]

theorem run_xmlProlog (s : Text) (m : Memory) :
    Pattern.run false xmlProlog.pattern .done (.start ("<?xml".toList ++ s)) m =
      Pattern.run false (run .allButLineFeed .lazy :: declarationEnd) .done
        (.between "<?xml".toList s) m := by
  have hword : ∀ c ∈ "<?xml".toList, (CharSet.ofCode false .fold c.toNat).contains c = true :=
    List.all_eq_true.1 (by decide)
  rw [xmlProlog_eq]
  exact run_word (w := "<?xml") (l := []) (r := s)
    (p := run .allButLineFeed .lazy :: declarationEnd) hword

theorem run_declarationEnd_failed {l r : Text} (hr : ¬ "?>".toList <+: r) (m : Memory) :
    Pattern.run false declarationEnd .done (.between l r) m = .failed m :=
  run_word_failed (List.forall_mem_cons.2 ⟨rfl, List.forall_mem_singleton.2 rfl⟩) hr

theorem run_declarationEnd (l r : Text) (m : Memory) :
    ∃ m', Pattern.run false declarationEnd .done (.between l ("?>".toList ++ r)) m = .matched m' ∧
      l ++ "?>".toList <+: m'.place.passed.reverse := by
  have hne : ∀ set, doctypeBelow ≠ [.one set] := fun set h => nomatch h
  obtain ⟨m', hm', hl⟩ := exists_run_optional false hne (by decide) (some 1) (l ++ "?>".toList) r m
  exact ⟨m', (run_word (List.all_eq_true.1 (by decide))).trans hm', hl⟩

section Declaration

variable {t x y : Text}

/-- What is before the first end mark begins as the declaration does. -/
theorem exists_declaration (ht : "<?xml".toList <+: t)
    (h : Text.cutAt? "?>".toList t = some (x, y)) :
    ∃ a, x = "<?xml".toList ++ a ∧ t = "<?xml".toList ++ (a ++ ("?>".toList ++ y)) := by
  obtain ⟨s, rfl⟩ := ht
  obtain ⟨a, ha, rfl⟩ : ∃ a, Text.cutAt? "?>".toList s = some (a, y) ∧ "<?xml".toList ++ a = x := by
    simpa [Text.cutAt?, Text.after?] using h
  exact ⟨a, rfl, by rw [Text.eq_of_cutAt? ha, List.append_assoc]⟩

/-- Before the first end mark the rest of the prolog pattern fails. -/
theorem run_declarationEnd_early {l z r : Text} (h : Text.cutAt? "?>".toList t = some (x, y))
    (ht : t = l ++ (z ++ r)) (hx : l.length < x.length) :
    Goal.Fails (Pattern.run false declarationEnd .done) (.between l (z ++ r)) := by
  refine fun m => ⟨m, run_declarationEnd_failed ?_ m⟩
  rintro ⟨r', hr⟩
  have hle := Text.length_le_of_cutAt? h (ht.trans (by rw [← hr]))
  omega

/-- A declaration with a line feed in it is not found. -/
theorem cutStart?_xmlProlog_of_mem (ht : "<?xml".toList <+: t)
    (h : Text.cutAt? "?>".toList t = some (x, y)) (hx : '\n' ∈ x) :
    cutStart? xmlProlog.pattern t = none := by
  obtain ⟨a, rfl, rfl⟩ := exists_declaration ht h
  have ha : '\n' ∈ a := (List.mem_append.1 hx).resolve_left (by decide)
  obtain ⟨b, c, rfl, hb⟩ := List.eq_append_cons_of_mem ha
  have hpass : ∀ d ∈ b, CharSet.allButLineFeed.contains d = true := fun d hd => by
    simpa [CharSet.contains] using ne_of_mem_of_not_mem hd hb
  rw [List.append_assoc, List.cons_append] at h ⊢
  obtain ⟨m, hm⟩ := run_lazy_failed hpass rfl (fun z z' hz => run_declarationEnd_early h (by
    rw [hz, List.append_assoc, List.append_assoc]) (by
      simp only [hz, List.length_append, List.length_cons]
      omega)) ⟨.start _, []⟩
  exact cutStart?_of_failed ((run_xmlProlog _ _).trans hm)

/-- A declaration without a line feed is covered. -/
theorem cutStart?_xmlProlog_of_not_mem (ht : "<?xml".toList <+: t)
    (h : Text.cutAt? "?>".toList t = some (x, y)) (hx : '\n' ∉ x) :
    ∃ covered rest, cutStart? xmlProlog.pattern t = some (covered, rest) ∧
      x ++ "?>".toList <+: covered := by
  obtain ⟨a, rfl, rfl⟩ := exists_declaration ht h
  rw [List.mem_append, not_or] at hx
  have hpass : ∀ d ∈ a, CharSet.allButLineFeed.contains d = true := fun d hd => by
    simpa [CharSet.contains] using ne_of_mem_of_not_mem hd hx.2
  obtain ⟨m, hm, hcovered⟩ := run_lazy_matched hpass (fun z z' hz hne => run_declarationEnd_early h
    (by rw [hz, List.append_assoc, List.append_assoc]) (by
      have := List.length_pos_iff.2 hne
      simp only [hz, List.length_append]
      omega)) (fun m => run_declarationEnd _ y m) ⟨.start _, []⟩
  exact ⟨_, _, cutStart?_of_matched ((run_xmlProlog _ _).trans hm), hcovered⟩

end Declaration

end Language.BuiltIn
end Letterhead
