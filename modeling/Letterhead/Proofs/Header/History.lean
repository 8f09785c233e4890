import Letterhead.Language.BuiltIn
import Letterhead.Proofs.Header.Enforcement

/-
  Histories of a buffer: one request after the other to put a header on its document or to take
  the header off. For a style without a skip pattern whose markers lie within a line, every run of
  a history leaves what was below the leading comments at first (`runs_keep_below`). Without
  keywords the header is all of the leading comments, so the last request alone decides what the
  document looks like (`last_run_decides`).
-/

namespace Letterhead

open Letterhead.Comment

/-- A request to put a header on a document, or to take it off when there is no template. -/
structure Request where
  template : Option (List Text)
  bindings : List Template.Binding
  keywords : List Text

/-- The rule that a request makes for a document. -/
def Request.rule (q : Request) (style : Comment.Style) (lineBreak : Text) : HeaderRule :=
  .ofTemplate style q.template q.bindings q.keywords lineBreak

/-- The rule that a request makes for a document of its own, which writes the most frequent line
break of the text. -/
def Request.ruleFor (q : Request) (style : Comment.Style) (s : Text) : HeaderRule :=
  q.rule style (Text.dominantBreak s).text

/-- Run a request on a document of its own. -/
def Request.run (q : Request) (style : Comment.Style) (s : Text) :
    Except ApplyError Action × Buffer :=
  (q.ruleFor style s).enforce (.ofText s)

theorem Request.run_eq (q : Request) (style : Comment.Style) (s : Text) :
    q.run style s = (.ok ((q.ruleFor style s).plan s).action,
      .holding ((q.ruleFor style s).plan s).result (Text.dominantBreak s).text) :=
  HeaderRule.enforce_holding _ s _ (Or.inr (Text.dominantBreak s).text_ne)

/-- Enforce the rules of requests on a buffer, one after the other. The list holds what each run
answers and the buffer that it leaves. -/
def runs (style : Comment.Style) (b : Buffer) :
    List Request → List (Except ApplyError Action × Buffer)
  | [] => []
  | q :: qs =>
    let run := (q.rule style b.lineBreak).enforce b
    run :: runs style run.2 qs

theorem runs_append (style : Comment.Style) (b : Buffer) (qs : List Request) (q : Request) :
    ∃ b', runs style b (qs ++ [q]) =
        runs style b qs ++ [(q.rule style b'.lineBreak).enforce b'] ∧
      (b' = b ∨ ∃ p ∈ runs style b qs, b' = p.2) := by
  induction qs generalizing b with
  | nil => exact ⟨b, rfl, Or.inl rfl⟩
  | cons q' qs ih =>
    obtain ⟨b', hruns, hb'⟩ := ih ((q'.rule style b.lineBreak).enforce b).2
    refine ⟨b', ?_, Or.inr ?_⟩
    · simp only [runs, List.cons_append, hruns]
    · rcases hb' with rfl | ⟨p, hp, rfl⟩
      · exact ⟨_, List.mem_cons_self, rfl⟩
      · exact ⟨p, List.mem_cons_of_mem _ hp, rfl⟩

variable {style : Comment.Style} {lb : LineBreak}

/-- The built-in languages have their markers within a line. -/
theorem markersInLine_of_mem_builtIn :
    ∀ l ∈ Language.BuiltIn.all, l.style.MarkersInLine := by
  decide

/-! ## What every run leaves -/

/-- What a document keeps through a history: the text below its leading comments, and whether a
block comment is left open there. -/
structure SameBelow (style : Comment.Style) (s t : Text) : Prop where
  below_eq : style.below s = style.below t
  unclosed_eq : style.hasUnclosedBlock s = style.hasUnclosedBlock t

theorem SameBelow.refl (style : Comment.Style) (s : Text) : SameBelow style s s := ⟨rfl, rfl⟩

theorem SameBelow.trans {s t u : Text} (h : SameBelow style s t) (h' : SameBelow style t u) :
    SameBelow style s u :=
  ⟨h.below_eq.trans h'.below_eq, h.unclosed_eq.trans h'.unclosed_eq⟩

/-- One run of a request with a header of the style, or with none. -/
theorem enforce_request (hskip : style.skip = none) (hst : style.MarkersInLine) {q : Request}
    (hq : (q.rule style lb.text).acceptsHeader = true) (s : Text) :
    (q.rule style lb.text).enforce (.holding s lb.text) =
        (.ok ((q.rule style lb.text).plan s).action,
          .holding ((q.rule style lb.text).plan s).result lb.text) ∧
      SameBelow style ((q.rule style lb.text).plan s).result s := by
  refine ⟨HeaderRule.enforce_holding _ s lb.text (Or.inr lb.text_ne), ?_, ?_⟩
  · exact HeaderRule.below_result s hskip hst rfl hq
  · exact HeaderRule.hasUnclosedBlock_result s hskip hst rfl hq

theorem runs_sameBelow (hskip : style.skip = none) (hst : style.MarkersInLine)
    {qs : List Request} (hqs : ∀ q ∈ qs, (q.rule style lb.text).acceptsHeader = true)
    (t : Text) {p : Except ApplyError Action × Buffer}
    (hp : p ∈ runs style (.holding t lb.text) qs) :
    ∃ a s, p = (.ok a, .holding s lb.text) ∧ SameBelow style s t := by
  induction qs generalizing t with
  | nil => simp [runs] at hp
  | cons q qs ih =>
    obtain ⟨hrun, hsame⟩ := enforce_request hskip hst (hqs q List.mem_cons_self) t
    simp only [runs, Buffer.holding_lineBreak, hrun, List.mem_cons] at hp
    rcases hp with rfl | hp
    · exact ⟨_, _, rfl, hsame⟩
    · obtain ⟨a, s, hps, hs⟩ := ih (fun q' hq' => hqs q' (List.mem_cons_of_mem q hq')) _ hp
      exact ⟨a, s, hps, hs.trans hsame⟩

/-- Every run of a history succeeds and leaves a document that has below its leading comments what
the first document has there. It leaves a block comment open if the first document does, so no rule
of the style accepts it otherwise than the first document. -/
theorem runs_keep_below (hskip : style.skip = none) (hst : style.MarkersInLine)
    (qs : List Request) (hqs : ∀ q ∈ qs, (q.rule style lb.text).acceptsHeader = true) (t : Text) :
    ∃ r, t = style.header t ++ r ∧
      ∀ p ∈ runs style (.holding t lb.text) qs, ∃ a s, p = (.ok a, .holding s lb.text) ∧
        s = style.header s ++ r ∧
        style.hasUnclosedBlock s = style.hasUnclosedBlock t ∧
        ∀ rule : HeaderRule, rule.style = style →
          rule.accepts (.holding s lb.text) = rule.accepts (.holding t lb.text) := by
  refine ⟨style.below t, (style.header_append_below t).symm, fun p hp => ?_⟩
  obtain ⟨a, s, hps, hsame⟩ := runs_sameBelow hskip hst hqs t hp
  refine ⟨a, s, hps, ?_, hsame.unclosed_eq, fun rule hrule => ?_⟩
  · rw [← hsame.below_eq, Style.header_append_below]
  · have habove : ∀ u, rule.above u = [] := fun u =>
      HeaderRule.above_eq_nil u (by rw [hrule, hskip])
    have haccepts : rule.acceptsDocument s = rule.acceptsDocument t := by
      simp only [HeaderRule.acceptsDocument, habove, List.length_nil, List.drop_zero, hrule]
      rw [hsame.unclosed_eq]
    simp only [HeaderRule.accepts, Buffer.document_holding, Except.map, haccepts]

/-- A request for a license line that replaces comments with the word in them. -/
def Request.license : Request :=
  ⟨some ["// License: MIT".toList], [], ["license".toList]⟩

/-- A request for no header. -/
def Request.removal : Request := ⟨none, [], []⟩

/-- A history of two runs on a document with a comment above its code. -/
theorem license_then_removal_keeps_below :
    let style := Language.BuiltIn.csharp.style
    let qs := [Request.license, Request.removal]
    let t := "// about A\nclass A {}\n".toList
    style.skip = none ∧ style.MarkersInLine ∧
      (∀ q ∈ qs, (q.rule style LineBreak.lf.text).acceptsHeader = true) ∧
      ∃ r, t = style.header t ++ r ∧
        ∀ p ∈ runs style (.holding t LineBreak.lf.text) qs, ∃ a s,
          p = (.ok a, .holding s LineBreak.lf.text) ∧ s = style.header s ++ r ∧
          style.hasUnclosedBlock s = style.hasUnclosedBlock t ∧
          ∀ rule : HeaderRule, rule.style = style →
            rule.accepts (.holding s LineBreak.lf.text) =
              rule.accepts (.holding t LineBreak.lf.text) :=
  have hst := markersInLine_of_mem_builtIn _ (List.mem_cons_self)
  have hqs : ∀ q ∈ [Request.license, Request.removal],
      (q.rule Language.BuiltIn.csharp.style LineBreak.lf.text).acceptsHeader = true := by
    decide +kernel
  ⟨rfl, hst, hqs, runs_keep_below rfl hst _ hqs _⟩

/-! ## Without keywords -/

/-- A rule without keywords has nothing left to do after one run. -/
theorem plan_again_of_no_keywords {r : HeaderRule} (hskip : r.style.skip = none)
    (hst : r.style.MarkersInLine) (hlb : r.lineBreak = lb.text) (hr : r.acceptsHeader = true)
    (hk : r.keywords = []) (s : Text) : (r.plan (r.plan s).result).action = .none := by
  have hbelow := HeaderRule.below_result s hskip hst hlb hr
  cases hh : r.header with
  | none =>
    have hresult := HeaderRule.result_remove s hskip hh
    rw [r.rest_of_no_keywords s hk] at hresult
    refine HeaderRule.action_eq_none_of_remove _ hskip hh ?_
    rw [hresult, r.existing_of_no_keywords _ hk, Style.header_below]
  | some h =>
    have hresult := HeaderRule.result_write s hskip hh
    have hheader := r.style.header_append_below (r.plan s).result
    rw [r.rest_of_no_keywords s hk] at hresult
    rw [hbelow] at hheader
    refine (HeaderRule.action_eq_none_iff _ hskip hh).2 ?_
    rw [r.existing_of_no_keywords _ hk, r.rest_of_no_keywords _ hk, hbelow]
    exact List.append_cancel_right (hheader.trans hresult)

/-- The rule of a request without keywords puts its header above what is below the leading
comments. -/
theorem result_of_no_keywords (hskip : style.skip = none) {q : Request}
    (hk : normalKeywords q.keywords = []) {m : Text} (hm : m ≠ []) (s : Text) :
    (q.template = none → ((q.rule style m).plan s).result = style.below s) ∧
      (q.template ≠ none → ∃ w, (q.rule style m).insertion (style.below s) = .ok w ∧
        ((q.rule style m).plan s).result = w ++ style.below s) := by
  have hrest := (q.rule style m).rest_of_no_keywords s hk
  cases ht : q.template with
  | none =>
    have hh : (q.rule style m).header = none := by
      simp [Request.rule, HeaderRule.ofTemplate, ht]
    refine ⟨fun _ => ?_, fun h => absurd rfl h⟩
    rw [HeaderRule.result_remove s hskip hh, hrest]
    rfl
  | some lines =>
    obtain ⟨h, hh⟩ : ∃ h, (q.rule style m).header = some h := by
      simp [Request.rule, HeaderRule.ofTemplate, ht]
    have hresult := HeaderRule.result_write s hskip hh
    rw [hrest] at hresult
    refine ⟨fun h => (nomatch h), fun _ => ?_⟩
    exact ⟨_, HeaderRule.insertion_eq _ hh hm _, hresult⟩

/-- Without keywords the last request of a history decides. Whatever was asked before, the document
is the text below the leading comments of the first one, with what the last request writes above
it, and to repeat the last request changes nothing. -/
theorem last_run_decides (hskip : style.skip = none) (hst : style.MarkersInLine)
    (qs : List Request) (q : Request)
    (hqs : ∀ q' ∈ qs ++ [q], (q'.rule style lb.text).acceptsHeader = true)
    (hks : ∀ q' ∈ qs ++ [q], normalKeywords q'.keywords = []) (t : Text) :
    ∃ r a s, t = style.header t ++ r ∧
      (runs style (.holding t lb.text) (qs ++ [q])).getLast? =
        some (.ok a, .holding s lb.text) ∧
      (q.template = none → s = r) ∧
      (q.template ≠ none →
        ∃ w, (q.rule style lb.text).insertion r = .ok w ∧ s = w ++ r) ∧
      (q.rule style lb.text).enforce (.holding s lb.text) = (.ok .none, .holding s lb.text) := by
  have hq := hqs q (by simp)
  have hk := hks q (by simp)
  obtain ⟨b', hruns, hb'⟩ := runs_append style (.holding t lb.text) qs q
  obtain ⟨u, rfl, hu⟩ : ∃ u, b' = .holding u lb.text ∧ SameBelow style u t := by
    rcases hb' with rfl | ⟨p, hp, rfl⟩
    · exact ⟨t, rfl, SameBelow.refl style t⟩
    · obtain ⟨a, u, hps, hu⟩ := runs_sameBelow hskip hst
        (fun q' hq' => hqs q' (List.mem_append_left _ hq')) t hp
      exact ⟨u, by rw [hps], hu⟩
  obtain ⟨hrun, -⟩ := enforce_request hskip hst hq u
  obtain ⟨hremove, hwrite⟩ := result_of_no_keywords hskip hk lb.text_ne u
  have hagain : ((q.rule style lb.text).plan ((q.rule style lb.text).plan u).result).action =
      .none := plan_again_of_no_keywords (r := q.rule style lb.text) hskip hst rfl hq hk u
  rw [hu.below_eq] at hremove hwrite
  refine ⟨style.below t, ((q.rule style lb.text).plan u).action, _,
    (style.header_append_below t).symm, ?_, hremove, hwrite, ?_⟩
  · rw [hruns, List.getLast?_append, Buffer.holding_lineBreak, hrun]
    rfl
  · rw [(enforce_request hskip hst hq _).1, hagain]
    rw [HeaderRule.result_plan_of_not_changes _ _ (by rw [Plan.changes, hagain]; rfl)]

/-- A request for a comment of two lines, whatever comments there are. -/
def Request.notice : Request :=
  ⟨some ["// License: MIT".toList, "// All of it".toList], [], []⟩

/-- The last of two runs without keywords, after the first one has taken the header off. -/
theorem removal_then_notice_decides :
    let style := Language.BuiltIn.csharp.style
    let m := LineBreak.lf.text
    let t := "// about A\nclass A {}\n".toList
    style.skip = none ∧ style.MarkersInLine ∧
      (∀ q ∈ [Request.removal] ++ [Request.notice], (q.rule style m).acceptsHeader = true) ∧
      (∀ q ∈ [Request.removal] ++ [Request.notice], normalKeywords q.keywords = []) ∧
      ∃ r a s, t = style.header t ++ r ∧
        (runs style (.holding t m) ([Request.removal] ++ [Request.notice])).getLast? =
          some (.ok a, .holding s m) ∧
        (Request.notice.template = none → s = r) ∧
        (Request.notice.template ≠ none →
          ∃ w, (Request.notice.rule style m).insertion r = .ok w ∧ s = w ++ r) ∧
        (Request.notice.rule style m).enforce (.holding s m) = (.ok .none, .holding s m) :=
  have hst := markersInLine_of_mem_builtIn _ (List.mem_cons_self)
  have hqs : ∀ q ∈ [Request.removal] ++ [Request.notice],
      (q.rule Language.BuiltIn.csharp.style LineBreak.lf.text).acceptsHeader = true := by
    decide +kernel
  have hks : ∀ q ∈ [Request.removal] ++ [Request.notice], normalKeywords q.keywords = [] := by
    decide +kernel
  ⟨rfl, hst, hqs, hks, last_run_decides rfl hst _ _ hqs hks _⟩

end Letterhead
