import Letterhead.Proofs.Header.Repetition
import Letterhead.Proofs.Language.Prolog

/-
  Interpreter lines. What stays above the header of a script runs through the first line feed
  (`above_of_shebang`). That is the first line, unless the line ends with CR and there is more of
  the document (`throughLineFeed_eq_cutLine_iff`): a pattern for the rest of a line knows no other
  end of a line than LF. Where it is the first line, the header goes below it, and the next run
  finds it there as long as the line does not end with CR (`interpreter_line_kept_iff`).
-/

namespace Letterhead

/-! ## Through the first line feed -/

namespace Text

/-- A text through its first line feed. -/
def throughLineFeed (s : Text) : Text :=
  s.takeWhile (· != '\n') ++ (s.dropWhile (· != '\n')).take 1

theorem throughLineFeed_append {a : Text} (ha : '\n' ∉ a) (s : Text) :
    throughLineFeed (a ++ s) = a ++ throughLineFeed s := by
  have hpass : ∀ c ∈ a, (c != '\n') = true := fun c hc => by
    simpa using ne_of_mem_of_not_mem hc ha
  rw [throughLineFeed, List.takeWhile_append_of_pos hpass, List.dropWhile_append_of_pos hpass,
    List.append_assoc, ← throughLineFeed]

theorem throughLineFeed_of_not_mem {a : Text} (ha : '\n' ∉ a) : throughLineFeed a = a := by
  simpa [throughLineFeed] using throughLineFeed_append ha []

theorem throughLineFeed_ne_nil {s : Text} (hs : s ≠ []) : throughLineFeed s ≠ [] := by
  cases s with
  | nil => exact absurd rfl hs
  | cons c s => by_cases hc : c = '\n' <;> simp [throughLineFeed, hc]

theorem Unbroken.not_mem {s : Text} (hs : Unbroken s) : '\n' ∉ s := fun h =>
  absurd (hs '\n' h) (by decide)

/-- A text through its first line feed is its first line, unless that ends with CR and there is
more of the text. -/
theorem throughLineFeed_eq_cutLine_iff (s : Text) : throughLineFeed s = (cutLine s).1 ↔
    (cutLine s).1 = s ∨ (cutLine s).1.getLast? ≠ some '\r' := by
  rcases cutLine_cases s with ⟨hs, hcut⟩ | ⟨w, b, r, hw, rfl, hb, hcut⟩
  · rw [hcut]
    simp [throughLineFeed_of_not_mem hs.not_mem]
  · rw [hcut, throughLineFeed_append hw.not_mem]
    cases b with
    | crlf => simp [LineBreak.text, throughLineFeed]
    | lf => simp [LineBreak.text, throughLineFeed]
    | cr =>
      have hcr : throughLineFeed (LineBreak.cr.text ++ r) = LineBreak.cr.text ++ throughLineFeed r :=
        throughLineFeed_append (by decide) r
      rw [hcr]
      cases r with
      | nil => simp [throughLineFeed]
      | cons c r => simp [LineBreak.text, throughLineFeed_ne_nil]

/-- A text through its first line feed is its first line if that does not end with CR. -/
theorem throughLineFeed_line {w : Text} (hw : Unbroken w) {b : LineBreak} (hb : b ≠ .cr)
    (s : Text) : throughLineFeed (w ++ b.text ++ s) = w ++ b.text := by
  rw [List.append_assoc, throughLineFeed_append hw.not_mem]
  cases b with
  | crlf => rfl
  | lf => rfl
  | cr => exact absurd rfl hb

theorem throughLineFeed_line_cr {w : Text} (hw : Unbroken w) (s : Text) :
    throughLineFeed (w ++ LineBreak.cr.text ++ s) = w ++ LineBreak.cr.text ++ throughLineFeed s := by
  refine throughLineFeed_append ?_ s
  simp [hw.not_mem, LineBreak.text]

/-- The first line of a text, with a line break where it has none. -/
def wholeLine (mark s : Text) : Text :=
  (cutLine s).1 ++ if endsLine (cutLine s).1 then [] else mark

/-- The first line of a text ends with a line break of its own, or there is no more of the text. -/
theorem exists_wholeLine (lb : LineBreak) (s : Text) : ∃ (w : Text) (b : LineBreak),
    Unbroken w ∧ wholeLine lb.text s = w ++ b.text ∧
      (endsLine (cutLine s).1 = true ∧ (cutLine s).1 = w ++ b.text ∨ (cutLine s).2 = []) := by
  rcases cutLine_cases s with ⟨hs, hcut⟩ | ⟨w, b, r, hw, -, -, hcut⟩
  · have hends : endsLine s = false := by
      rw [endsLine, Option.any_eq_false]
      intro c hc
      simp [hs c (List.mem_of_getLast? hc)]
    exact ⟨s, lb, hs, by simp [wholeLine, hcut, hends], Or.inr (by rw [hcut])⟩
  · have hends : endsLine (w ++ b.text) = true := by
      cases b <;> simp [endsLine, LineBreak.text, isBreakChar]
    exact ⟨w, b, hw, by simp [wholeLine, hcut, hends], Or.inl (by rw [hcut]; exact ⟨hends, rfl⟩)⟩

theorem eq_nil_below_cr {s : Text} (hs : throughLineFeed s = (cutLine s).1)
    (hcr : (cutLine s).1.getLast? = some '\r') : (cutLine s).2 = [] := by
  have hall : (cutLine s).1 = s :=
    ((throughLineFeed_eq_cutLine_iff s).1 hs).resolve_right (not_not_intro hcr)
  have happend := cutLine_append s
  rw [hall] at happend
  exact List.append_right_eq_self.1 happend

theorem getLast?_line (w : Text) (b : LineBreak) :
    (w ++ b.text).getLast? = some '\r' ↔ b = .cr := by
  cases b <;> simp [LineBreak.text]

end Text

open Text Letterhead.Comment

/-! ## Below what is skipped -/

namespace HeaderRule

variable {r : HeaderRule} {lb : LineBreak} {h : Text} {s : Text}

theorem above_of_shebang (hskip : r.style.skip = some Language.BuiltIn.shebang)
    (hs : "#!".toList <+: s) : r.above s = throughLineFeed s := by
  have hcut := Language.BuiltIn.cutStart?_shebang hs
  obtain ⟨c, covered, hcovered⟩ : ∃ c covered, s.takeWhile (· != '\n') = c :: covered := by
    obtain ⟨s, rfl⟩ := hs
    exact ⟨_, _, rfl⟩
  have htake : LineBreak.take? (s.dropWhile (· != '\n')) = none ∧
        (s.dropWhile (· != '\n')).take 1 = [] ∨
      ∃ g, LineBreak.take? (s.dropWhile (· != '\n')) = some (.lf, g) ∧
        (s.dropWhile (· != '\n')).take 1 = LineBreak.lf.text := by
    cases hrest : s.dropWhile (· != '\n') with
    | nil => exact Or.inl ⟨rfl, rfl⟩
    | cons d g =>
      have hd := List.head?_dropWhile_not (· != '\n') s
      rw [hrest] at hd
      obtain rfl : d = '\n' := by simpa using hd
      exact Or.inr ⟨g, rfl, rfl⟩
  unfold above throughLineFeed
  rw [hskip, Option.bind_some, hcut, hcovered]
  rcases htake with ⟨hnone, hrest⟩ | ⟨g, hlf, hrest⟩
  · simp only [hnone, hrest, List.append_nil]
  · simp only [hlf, hrest]

/-- Without keywords a header goes below the first line and above what is below the comments that
follow, where the first line is what is skipped. -/
theorem result_below_line (hlb : r.lineBreak = lb.text) (hk : r.keywords = [])
    (hh : r.header = some h) (hline : r.above s = (cutLine s).1)
    (hfirst : (cutLine s).1 ≠ []) : (r.plan s).result = wholeLine lb.text s ++
      (r.written h (r.style.below (cutLine s).2) ++ r.style.below (cutLine s).2) := by
  have hbody : r.body s = (cutLine s).2 := by
    have happend := (r.above_append_body s).trans (cutLine_append s).symm
    rw [hline] at happend
    exact List.append_cancel_left happend
  have hends : endsLine (r.above s) = true ∨ r.body s = [] := by
    obtain ⟨w, b, -, -, hends⟩ := exists_wholeLine lb s
    rw [hline, hbody]
    exact hends.imp_left And.left
  rw [result_plan_eq r s hlb hh (Or.inr hends), r.rest_of_no_keywords _ hk, hbody, hline, parted,
    wholeLine, hlb]
  simp only [hfirst, false_or, List.append_assoc]

/-! ## The second run -/

/-- A header right below what is skipped is found, and needs nothing. -/
theorem action_again {line f : Text} (hst : r.style.MarkersInLine) (hlb : r.lineBreak = lb.text)
    (hk : r.keywords = []) (hh : r.header = some h) (hvalid : r.style.isHeader h = true)
    (hf : r.style.header f = []) (habove : r.above (line ++ (r.written h f ++ f)) = line) :
    (r.plan (line ++ (r.written h f ++ f))).action = .none := by
  have hbody : r.body (line ++ (r.written h f ++ f)) = r.written h f ++ f := by
    have happend := r.above_append_body (line ++ (r.written h f ++ f))
    rw [habove] at happend
    exact List.append_cancel_left happend
  have hbelow : r.style.below (r.written h f ++ f) = f := by
    have happend := r.style.header_append_below f
    rw [hf, List.nil_append] at happend
    rw [below_written hst hlb hvalid, happend]
  have hheader := r.style.header_append_below (r.written h f ++ f)
  rw [hbelow] at hheader
  rw [action_plan_eq_none_iff r _ hh, hbody, r.existing_of_no_keywords _ hk,
    r.rest_of_no_keywords _ hk, hbelow]
  exact List.append_cancel_right hheader

theorem length_le_written (hlb : r.lineBreak = lb.text) (h f : Text) :
    h.length + lb.text.length ≤ (r.written h f).length := by
  rw [written_eq, hlb, List.length_append, List.length_append]
  omega

theorem written_nil (r : HeaderRule) (h : Text) : r.written h [] = h ++ r.lineBreak := by
  have hnone : r.style.startsWithComment [] = false := by
    cases ho : r.style.opening? [] with
    | none => simp [Style.startsWithComment, ho]
    | some p =>
      obtain ⟨hne, he⟩ := Style.opening?_spec ho
      exact absurd (List.append_eq_nil_iff.1 he.symm).1 hne
  simp [written_eq, blankLine, hnone]

/-- A header that is in part taken for what is skipped is not found whole, and is written again. -/
theorem action_again_ne {line v : Text} (hlb : r.lineBreak = lb.text) (hh : r.header = some h)
    (habove : r.above (line ++ r.written h []) = line ++ v) (hv : v ≠ []) :
    (r.plan (line ++ r.written h [])).action ≠ .none := by
  rw [Ne, action_plan_eq_none_iff r _ hh]
  intro he
  have happend := r.above_append_body (line ++ r.written h [])
  have hrest := r.existing_append_rest (r.body (line ++ r.written h []))
  generalize r.body (line ++ r.written h []) = body at he happend hrest
  rw [habove, List.append_assoc, written_nil, hlb] at happend
  have hlen := congrArg List.length (List.append_cancel_left happend)
  have hwritten := r.length_le_written hlb h (r.rest body)
  rw [← he] at hwritten
  rw [← hrest] at hlen
  have hpos := List.length_pos_iff.2 hv
  simp only [List.length_append] at hlen
  omega

/-- Where what is skipped ends with the first line feed, the second run has nothing to do exactly
when the line above the header does not end with CR. -/
theorem action_below_line_iff (hst : r.style.MarkersInLine) (hlb : r.lineBreak = lb.text)
    (hk : r.keywords = []) (hh : r.header = some h) (hvalid : r.style.isHeader h = true)
    (hline : throughLineFeed s = (cutLine s).1)
    (habove : ∀ g, r.above (wholeLine lb.text s ++ g) = throughLineFeed (wholeLine lb.text s ++ g)) :
    let f := r.style.below (cutLine s).2
    (r.plan (wholeLine lb.text s ++ (r.written h f ++ f))).action = .none ↔
      (wholeLine lb.text s).getLast? ≠ some '\r' := by
  intro f
  obtain ⟨w, b, hw, hwhole, hends⟩ := exists_wholeLine lb s
  rw [hwhole] at habove ⊢
  rw [ne_eq, getLast?_line]
  constructor
  · rintro hidle rfl
    -- All of the document was the line, so the header is the last thing in it.
    have hbelow : (cutLine s).2 = [] := hends.elim
      (fun ⟨_, hcut⟩ => eq_nil_below_cr hline (hcut ▸ (getLast?_line w .cr).2 rfl)) id
    have hf : f = [] := by
      show r.style.below (cutLine s).2 = []
      rw [hbelow]
      exact (List.append_eq_nil_iff.1 (r.style.header_append_below [])).2
    rw [hf, List.append_nil] at hidle
    exact action_again_ne hlb hh ((habove _).trans (throughLineFeed_line_cr hw _))
      (throughLineFeed_ne_nil (r.written_ne_nil_of_lineBreak hlb h [])) hidle
  · intro hb
    refine action_again hst hlb hk hh hvalid (r.style.header_below _) ?_
    rw [habove, throughLineFeed_line hw hb]

end HeaderRule

/-! ## Scripts -/

theorem skip_of_source {style : Comment.Style}
    (hskip : style.marks.skipExpression = some "#!.*".toList) :
    style.skip = some Language.BuiltIn.shebang := by
  obtain ⟨k, hk, hsource⟩ := Option.map_eq_some_iff.1 hskip
  rw [hk, Skip.eq_of_source (hsource.trans rfl : k.source = Language.BuiltIn.shebang.source)]

theorem shebang_prefix_cutLine {t : Text} (ht : "#!".toList <+: t) :
    "#!".toList <+: (cutLine t).1 := by
  obtain ⟨s, rfl⟩ := ht
  have hcut : cutLine ("#!".toList ++ s) = ("#!".toList ++ (cutLine s).1, (cutLine s).2) :=
    (cutLine_cons (c := '#') (by decide) ('!' :: s)).trans (by
      rw [cutLine_cons (c := '!') (by decide) s]
      rfl)
  rw [hcut]
  exact List.prefix_append _ _

/-- For the built-in languages of scripts, what stays above the header of a document that begins
with an interpreter line is that line exactly when it does not end with CR or is all of the
document. Then a header goes right below it, above what is below the comments there, and a second
run has nothing to do exactly when the line, with the line break that it has got, does not end with
CR. -/
theorem interpreter_line_kept_iff {l : Language} (hl : l ∈ Language.BuiltIn.all)
    (hskip : l.style.marks.skipExpression = some "#!.*".toList) {t : Text}
    (ht : "#!".toList <+: t) {r : HeaderRule} (hr : r.style = l.style) {lb : LineBreak}
    (hlb : r.lineBreak = lb.text) :
    let line := wholeLine lb.text t
    let f := l.style.below (cutLine t).2
    (r.above t = (cutLine t).1 ↔ (cutLine t).1 = t ∨ (cutLine t).1.getLast? ≠ some '\r') ∧
    ∀ h, r.header = some h → l.style.isHeader h = true → r.keywords = [] →
      r.above t = (cutLine t).1 → ∀ m, ∃ a w, r.insertion f = .ok w ∧
        r.enforce (.holding t m) = (.ok a, .holding (line ++ (w ++ f)) m) ∧
        (r.enforce (.holding (line ++ (w ++ f)) m) =
            (.ok .none, .holding (line ++ (w ++ f)) m) ↔ line.getLast? ≠ some '\r') := by
  intro line f
  have hst : r.style.MarkersInLine := hr ▸ markersInLine_of_mem_builtIn l hl
  have hfirst := shebang_prefix_cutLine ht
  have habove : ∀ {s}, "#!".toList <+: s → r.above s = throughLineFeed s :=
    HeaderRule.above_of_shebang (hr ▸ skip_of_source hskip)
  refine ⟨by rw [habove ht, throughLineFeed_eq_cutLine_iff], fun h hh hvalid hk hline m => ?_⟩
  have hp : r.header = none ∨ r.lineBreak ≠ [] := Or.inr (hlb ▸ lb.text_ne)
  have hresult : (r.plan t).result = line ++ (r.written h f ++ f) := by
    have hnil : (cutLine t).1 ≠ [] := fun hnil => by simp [hnil] at hfirst
    rw [HeaderRule.result_below_line hlb hk hh hline hnil, hr]
  have hagain : ∀ s, r.above (line ++ s) = throughLineFeed (line ++ s) := fun s =>
    habove (hfirst.trans ((List.prefix_append _ _).trans (List.prefix_append line s)))
  have hidle := HeaderRule.action_below_line_iff (s := t) hst hlb hk hh (hr ▸ hvalid)
    ((habove ht).symm.trans hline) hagain
  rw [hr] at hidle
  refine ⟨(r.plan t).action, r.written h f, r.insertion_eq hh (hlb ▸ lb.text_ne) f, ?_, ?_⟩
  · rw [r.enforce_holding t m hp, hresult]
  · rw [HeaderRule.enforce_eq_none_iff r _ m hp]
    exact hidle

/-- A request for a license line in a script, whatever comments there are. -/
def Request.scriptNotice : Request := ⟨some ["# License: MIT".toList], [], []⟩

/-- The license line goes right below a first line that ends with CRLF, and stays there. -/
theorem interpreter_line_kept_in_script :
    let l := Language.BuiltIn.shell
    let r := Request.scriptNotice.rule l.style LineBreak.crlf.text
    let h := "# License: MIT".toList
    let t := "#!/bin/sh\r\necho hi\r\n".toList
    let line := wholeLine LineBreak.crlf.text t
    let f := l.style.below (cutLine t).2
    let m := LineBreak.crlf.text
    l ∈ Language.BuiltIn.all ∧ l.style.marks.skipExpression = some "#!.*".toList ∧
      "#!".toList <+: t ∧ r.header = some h ∧ l.style.isHeader h = true ∧
      r.keywords = [] ∧ r.above t = (cutLine t).1 ∧ ∃ a w, r.insertion f = .ok w ∧
        r.enforce (.holding t m) = (.ok a, .holding (line ++ (w ++ f)) m) ∧
        r.enforce (.holding (line ++ (w ++ f)) m) = (.ok .none, .holding (line ++ (w ++ f)) m) := by
  intro l r h t line f m
  have hl : l ∈ Language.BuiltIn.all := by simp [l, Language.BuiltIn.all]
  have ht : "#!".toList <+: t := by decide
  have hh : r.header = some h := rfl
  have hvalid : l.style.isHeader h = true := Style.isHeader_of_next (t := ⟨[], .line, _⟩) rfl rfl
  have hlb : r.lineBreak = LineBreak.crlf.text := rfl
  obtain ⟨hfirst, hkept⟩ := interpreter_line_kept_iff (l := l) (r := r) hl rfl ht rfl hlb
  have habove : r.above t = (cutLine t).1 := hfirst.2 (Or.inr (by decide))
  obtain ⟨a, w, hw, hrun, hagain⟩ := hkept h hh hvalid rfl habove m
  exact ⟨hl, rfl, ht, hh, hvalid, rfl, habove, a, w, hw, hrun, hagain.2 (by decide)⟩

/-- In a script whose lines end with CR all of the document counts as the interpreter line, so the
license line goes to the end, and each further run writes one more. -/
theorem interpreter_line_overrun :
    let l := Language.BuiltIn.shell
    let r := Request.scriptNotice.rule l.style LineBreak.cr.text
    let t := "#!/bin/sh\recho hi\r".toList
    let u := "#!/bin/sh\recho hi\r# License: MIT\r".toList
    let m := LineBreak.cr.text
    l.style.marks.skipExpression = some "#!.*".toList ∧ "#!".toList <+: t ∧
      r.acceptsHeader = true ∧ r.header ≠ some [] ∧ r.keywords = [] ∧
      (cutLine t).1 = "#!/bin/sh\r".toList ∧ r.above t = t ∧
      r.enforce (.holding t m) = (.ok .insert, .holding u m) ∧
      r.enforce (.holding u m) = (.ok .insert, .holding (u ++ "# License: MIT\r".toList) m) := by
  intro l r t u m
  have hvalid : r.acceptsHeader = true := Style.isHeader_of_next (t := ⟨[], .line, _⟩) rfl rfl
  have hrun : ∀ s : Text, "#!".toList <+: s → '\n' ∉ s → endsLine s = true → r.above s = s ∧
      r.enforce (.holding s m) = (.ok .insert, .holding (s ++ "# License: MIT\r".toList) m) := by
    intro s hs hlf hends
    have habove : r.above s = s :=
      (HeaderRule.above_of_shebang rfl hs).trans (throughLineFeed_of_not_mem hlf)
    have hbody : r.body s = [] := by rw [HeaderRule.body, habove, List.drop_length]
    have hnone : r.existing (r.body s) = [] := by
      rw [hbody]
      exact r.existing_eq_nil [] (List.prefix_nil.1 (r.style.header_prefix []))
    refine ⟨habove, ?_⟩
    rw [r.enforce_holding s m (Or.inr (by decide)),
      r.plan_of_insertion s (h := "# License: MIT".toList) rfl (by decide) hnone, habove, hbody,
      HeaderRule.parted, if_pos (Or.inr hends), Plan.result, List.append_nil]
    rfl
  obtain ⟨habove, hfirst⟩ := hrun t (by decide) (by decide) (by decide)
  obtain ⟨-, hagain⟩ := hrun u (by decide) (by decide) (by decide)
  exact ⟨rfl, by decide, hvalid, by decide, rfl, by decide, habove, hfirst, hagain⟩

end Letterhead
