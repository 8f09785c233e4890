import Letterhead.Buffer.File
import Letterhead.Proofs.Text.Utf8

/-
  The bytes of text files. Bytes without a zero byte are a text file when they are UTF-8 behind the
  byte order mark that they may begin with, and writing the file gives the same bytes back
  (`TextFile.toBytes_of_ofBytes?`). Edits change the text of an open file and never its mark
  (`OpenFile.marked_editAll`), and they can bring in surrogates, which keep it from being saved
  (`OpenFile.exists_save_error_iff`). What is written is read back as the same file unless the text
  holds the null character, or begins with U+FEFF where nothing marks the file
  (`TextFile.ofBytes?_toBytes_iff`).
-/

namespace Letterhead

/-! ## Bytes and text files -/

theorem Utf8.dropMark_spec (bytes : List UInt8) :
    bytes = (if (dropMark bytes).1 then mark else []) ++ (dropMark bytes).2 ∧
      ((dropMark bytes).1 = true ↔ mark <+: bytes) := by
  unfold dropMark
  split
  next rest => exact ⟨rfl, ⟨fun _ => ⟨rest, rfl⟩, fun _ => rfl⟩⟩
  next hne =>
    exact ⟨rfl, ⟨fun h => (Bool.false_ne_true h).elim,
      fun ⟨rest, hrest⟩ => (hne rest hrest.symm).elim⟩⟩

/-- Bytes without one leading byte order mark. -/
def Utf8.withoutMark (bytes : List UInt8) : List UInt8 :=
  if mark <+: bytes then bytes.drop mark.length else bytes

theorem Utf8.dropMark_eq (bytes : List UInt8) : (dropMark bytes).2 = withoutMark bytes := by
  obtain ⟨hbytes, hmark⟩ := dropMark_spec bytes
  unfold withoutMark
  by_cases h : mark <+: bytes
  · rw [if_pos (hmark.2 h)] at hbytes
    conv_rhs => rw [hbytes]
    rw [if_pos (List.prefix_append mark _), List.drop_left]
  · rw [if_neg (mt hmark.1 h), List.nil_append] at hbytes
    rw [if_neg h, ← hbytes]

namespace TextFile

variable {bytes : List UInt8} {f : TextFile} {s : Text}

theorem ofBytes?_spec (h : ofBytes? bytes = some f) :
    ∃ rest, bytes = (if f.marked then Utf8.mark else []) ++ rest ∧
      Utf8.decode? rest = some f.text ∧ (f.marked = true ↔ Utf8.mark <+: bytes) := by
  unfold ofBytes? at h
  split at h
  · cases h
  · obtain ⟨s, hs, rfl⟩ := Option.map_eq_some_iff.1 h
    obtain ⟨hbytes, hmark⟩ := Utf8.dropMark_spec bytes
    exact ⟨_, hbytes, hs, hmark⟩

/-- A document with another text than the file has other bytes. -/
theorem toBytes_ne (h : ofBytes? bytes = some f) (hs : s ≠ f.text) :
    toBytes { f with text := s } ≠ bytes := by
  obtain ⟨rest, hbytes, hdecode, -⟩ := ofBytes?_spec h
  intro heq
  have hrest : Utf8.encode s = rest := List.append_cancel_left (heq.trans hbytes)
  rw [← hrest, Utf8.decode?_encode] at hdecode
  exact hs (Option.some.inj hdecode)

theorem toBytes_eq (h : ofBytes? bytes = some f) (s : Text) :
    toBytes { f with text := s } =
      (if Utf8.mark <+: bytes then Utf8.mark else []) ++ Utf8.encode s := by
  obtain ⟨-, -, -, hmark⟩ := ofBytes?_spec h
  simp only [toBytes, hmark]

theorem toBytes_of_ofBytes? (h : ofBytes? bytes = some f) : f.toBytes = bytes := by
  obtain ⟨rest, hbytes, hdecode, -⟩ := ofBytes?_spec h
  rw [hbytes, toBytes, Utf8.decode?_eq_some_iff.1 hdecode]

theorem ofBytes?_eq_none_iff :
    ofBytes? bytes = none ↔ 0 ∈ bytes ∨ ¬ Utf8.WellFormed (Utf8.withoutMark bytes) := by
  unfold ofBytes?
  by_cases hzero : 0 ∈ bytes
  · rw [if_pos (List.contains_iff_mem.2 hzero)]
    exact iff_of_true rfl (Or.inl hzero)
  · rw [if_neg (mt List.contains_iff_mem.1 hzero), Option.map_eq_none_iff,
      Utf8.decode?_eq_none_iff, Utf8.dropMark_eq]
    exact (or_iff_right hzero).symm

theorem zero_mem_toBytes_iff : 0 ∈ f.toBytes ↔ '\x00' ∈ f.text := by
  have hmark : 0 ∉ (if f.marked then Utf8.mark else []) := by
    cases f.marked <;> decide
  rw [toBytes, List.mem_append, or_iff_right hmark, Utf8.zero_mem_encode_iff]

theorem dropMark_toBytes_iff : Utf8.dropMark f.toBytes = (f.marked, Utf8.encode f.text) ↔
    f.marked = true ∨ f.text.head? ≠ some '\uFEFF' := by
  unfold toBytes
  cases hm : f.marked with
  | true => exact iff_of_true rfl (Or.inl rfl)
  | false =>
    rw [if_neg Bool.false_ne_true, List.nil_append, or_iff_right Bool.false_ne_true, ne_eq,
      ← Utf8.mark_prefix_encode_iff]
    obtain ⟨hbytes, hmark⟩ := Utf8.dropMark_spec (Utf8.encode f.text)
    rw [← hmark]
    constructor
    · intro h
      rw [h]
      exact Bool.false_ne_true
    · intro h
      rw [if_neg h, List.nil_append] at hbytes
      exact Prod.ext (Bool.eq_false_iff.2 h) hbytes.symm

/-- What is written is read back, unless the text holds the null character or looks marked. -/
theorem ofBytes?_toBytes_iff : ofBytes? f.toBytes = some f ↔
    '\x00' ∉ f.text ∧ (f.marked = true ∨ f.text.head? ≠ some '\uFEFF') := by
  rw [← zero_mem_toBytes_iff, ← dropMark_toBytes_iff]
  unfold ofBytes?
  by_cases hzero : 0 ∈ f.toBytes
  · rw [if_pos (List.contains_iff_mem.2 hzero)]
    exact iff_of_false (Option.some_ne_none f).symm fun h => h.1 hzero
  · rw [if_neg (mt List.contains_iff_mem.1 hzero), and_iff_right hzero, Option.map_eq_some_iff]
    constructor
    · rintro ⟨s, hs, hf⟩
      have hmarked : (Utf8.dropMark f.toBytes).1 = f.marked := congrArg marked hf
      obtain rfl : s = f.text := congrArg text hf
      exact Prod.ext hmarked (Utf8.decode?_eq_some_iff.1 hs).symm
    · intro h
      rw [h]
      exact ⟨f.text, Utf8.decode?_encode f.text, rfl⟩

end TextFile

/-! ## Code points -/

namespace Utf8

variable {ps : List CodePoint}

theorem encodePoints_ofText (s : Text) : encodePoints (CodePoint.ofText s) = .ok (encode s) := by
  rw [encodePoints, CodePoint.text?_ofText]

/-- Code points cannot be written when a surrogate is among them. -/
theorem exists_encodePoints_error_iff :
    (∃ e, encodePoints ps = .error e) ↔ ∃ n, .surrogate n ∈ ps := by
  rw [← CodePoint.text?_eq_none_iff, encodePoints]
  cases CodePoint.text? ps with
  | none => exact iff_of_true ⟨_, rfl⟩ rfl
  | some s => exact iff_of_false (fun ⟨_, h⟩ => nomatch h) (Option.some_ne_none s)

/-- The error names the first run of surrogates. -/
theorem encodePoints_surrogates (s : Text) (n : Fin 0x800) (ns : List (Fin 0x800))
    (ps : List CodePoint) (hps : ps.head?.all CodePoint.isChar = true) :
    encodePoints (CodePoint.ofText s ++ (n :: ns).map .surrogate ++ ps) =
      .error ⟨s.length, s.length + (n :: ns).length⟩ := by
  have hnone : CodePoint.text? (CodePoint.ofText s ++ (n :: ns).map .surrogate ++ ps) = none :=
    CodePoint.text?_eq_none_iff.2 ⟨n, by simp⟩
  have hchars : ∀ p ∈ CodePoint.ofText s, p.isChar = true := by
    intro p hp
    obtain ⟨c, -, rfl⟩ := List.mem_map.1 hp
    rfl
  have hrun : ∀ p ∈ (n :: ns).map CodePoint.surrogate, (!p.isChar) = true := by
    intro p hp
    obtain ⟨m, -, rfl⟩ := List.mem_map.1 hp
    rfl
  have hrest : ps.takeWhile (! ·.isChar) = [] := by
    cases ps with
    | nil => rfl
    | cons p ps => exact List.takeWhile_cons_of_neg (by simpa using hps)
  have hlength : (CodePoint.ofText s).length = s.length := List.length_map _
  rw [encodePoints, hnone, List.append_assoc, List.takeWhile_append_of_pos hchars,
    List.map_cons, List.cons_append, List.takeWhile_cons_of_neg Bool.false_ne_true, List.append_nil]
  dsimp only
  rw [List.drop_left, ← List.cons_append, ← List.map_cons, List.takeWhile_append_of_pos hrun, hrest,
    List.append_nil, List.length_map, hlength]

end Utf8

/-! ## Open files -/

namespace OpenFile

variable {bytes : List UInt8} {f : TextFile} {o o' : OpenFile} {e : Buffer.Edit CodePoint}
  {es : List (Buffer.Edit CodePoint)} {s : Text}

theorem marked_edit (h : o.edit e = .ok o') : o'.marked = o.marked := by
  unfold edit at h
  split at h
  · cases h
    rfl
  · cases h

theorem marked_editAll (h : o.editAll es = .ok o') : o'.marked = o.marked := by
  unfold editAll at h
  induction es generalizing o with
  | nil =>
    cases h
    rfl
  | cons e es ih =>
    rw [List.foldlM_cons] at h
    cases he : o.edit e with
    | error cause =>
      rw [he] at h
      cases h
    | ok o₁ =>
      rw [he] at h
      exact (ih h).trans (marked_edit he)

/-- A file with a text of characters is saved as the text file that it is. -/
theorem save_of_text (h : o.buffer.text = CodePoint.ofText s) :
    o.save = .ok (TextFile.mk o.marked s).toBytes := by
  rw [save, h, Utf8.encodePoints_ofText]
  rfl

theorem exists_save_error_iff :
    (∃ e, o.save = .error e) ↔ ∃ n, .surrogate n ∈ o.buffer.text := by
  rw [← Utf8.exists_encodePoints_error_iff, save]
  cases Utf8.encodePoints o.buffer.text with
  | error e => exact iff_of_true ⟨e, rfl⟩ ⟨e, rfl⟩
  | ok bytes => exact iff_of_false (fun ⟨_, h⟩ => nomatch h) (fun ⟨_, h⟩ => nomatch h)

/-- Bytes that are opened as a file with this mark and this text. -/
theorem opened_iff :
    (∃ o, ofBytes? bytes = some o ∧ o.marked = f.marked ∧
      o.buffer.text = CodePoint.ofText f.text) ↔ TextFile.ofBytes? bytes = some f := by
  unfold ofBytes?
  constructor
  · rintro ⟨o, ho, hmarked, htext⟩
    obtain ⟨g, hg, rfl⟩ := Option.map_eq_some_iff.1 ho
    have hsame : g.text = f.text := CodePoint.ofText_injective htext
    obtain ⟨marked, text⟩ := g
    obtain rfl : marked = f.marked := hmarked
    obtain rfl : text = f.text := hsame
    exact hg
  · intro h
    rw [h]
    exact ⟨ofFile f, rfl, rfl, rfl⟩

/-- Bytes are opened unless they hold a zero byte or are no UTF-8 behind a byte order mark. Saving
gives them back. Behind accepted edits the file cannot be saved exactly when its text holds a
surrogate; any other text is saved behind the mark that the bytes had. What is saved is opened with
the same text and mark unless the text holds the null character, or begins with U+FEFF where the
bytes had no mark. -/
theorem bytes_round_trip (bytes : List UInt8) :
    (ofBytes? bytes = none ↔ 0 ∈ bytes ∨ ¬ Utf8.WellFormed (Utf8.withoutMark bytes)) ∧
      ∀ o, ofBytes? bytes = some o →
        o.save = .ok bytes ∧ (o.marked = true ↔ Utf8.mark <+: bytes) ∧
        ∀ es o', o.editAll es = .ok o' →
          ((∃ e, o'.save = .error e) ↔ ∃ n, .surrogate n ∈ o'.buffer.text) ∧
          ((∀ n, .surrogate n ∉ o'.buffer.text) →
            ∃ s saved, o'.buffer.text = CodePoint.ofText s ∧ o'.save = .ok saved ∧
              saved = (if Utf8.mark <+: bytes then Utf8.mark else []) ++ Utf8.encode s ∧
              ((∃ o₂, ofBytes? saved = some o₂ ∧ o₂.marked = o.marked ∧
                  o₂.buffer.text = o'.buffer.text) ↔
                '\x00' ∉ s ∧ (Utf8.mark <+: bytes ∨ s.head? ≠ some '\uFEFF'))) := by
  refine ⟨?_, fun o ho => ?_⟩
  · rw [ofBytes?, Option.map_eq_none_iff, TextFile.ofBytes?_eq_none_iff]
  obtain ⟨f, hf, rfl⟩ := Option.map_eq_some_iff.1 ho
  obtain ⟨-, -, -, hmark⟩ := TextFile.ofBytes?_spec hf
  have hsave : (ofFile f).save = .ok bytes :=
    (save_of_text rfl).trans (congrArg Except.ok (TextFile.toBytes_of_ofBytes? hf))
  refine ⟨hsave, hmark, fun es o' ho' => ⟨exists_save_error_iff, fun hchars => ?_⟩⟩
  obtain ⟨s, hs⟩ := CodePoint.exists_eq_ofText hchars
  have hmarked : o'.marked = f.marked := marked_editAll ho'
  refine ⟨s, _, hs, save_of_text hs, ?_, ?_⟩
  · rw [hmarked]
    exact TextFile.toBytes_eq hf s
  · rw [hmarked, hs, ← hmark]
    exact opened_iff.trans TextFile.ofBytes?_toBytes_iff

/-- A marked file with one line, of which an edit writes the text anew, and a surrogate that keeps
it from being saved. -/
theorem bytes_round_trip_marked :
    ∃ o o' o'', ofBytes? (Utf8.mark ++ [0x61, 0x0D, 0x0A]) = some o ∧
      o.editAll [.insert 0 (CodePoint.ofText "é".toList), .delete 1 2] = .ok o' ∧
      o.editAll [.insert 1 [.surrogate 0]] = .ok o'' ∧
      o.save = .ok (Utf8.mark ++ [0x61, 0x0D, 0x0A]) ∧
      o'.save = .ok (Utf8.mark ++ [0xC3, 0xA9, 0x0D, 0x0A]) ∧
      (∃ o₂, ofBytes? (Utf8.mark ++ [0xC3, 0xA9, 0x0D, 0x0A]) = some o₂ ∧ o₂.marked = true ∧
        o₂.buffer.text = CodePoint.ofText "é\r\n".toList) ∧
      o''.save = .error ⟨1, 2⟩ := by
  have hfile : TextFile.ofBytes? (TextFile.mk true "a\r\n".toList).toBytes =
      some ⟨true, "a\r\n".toList⟩ :=
    TextFile.ofBytes?_toBytes_iff.2 ⟨by decide, Or.inl rfl⟩
  have hopen : ofBytes? (Utf8.mark ++ [0x61, 0x0D, 0x0A]) =
      some (ofFile ⟨true, "a\r\n".toList⟩) := congrArg (Option.map _) hfile
  obtain ⟨-, hround⟩ := bytes_round_trip (Utf8.mark ++ [0x61, 0x0D, 0x0A])
  obtain ⟨hsaved, -, hedits⟩ := hround _ hopen
  obtain ⟨-, htext⟩ :=
    hedits [.insert 0 (CodePoint.ofText "é".toList), .delete 1 2] _ rfl
  obtain ⟨s, saved, hs, hsaved', rfl, hread⟩ :=
    htext (CodePoint.surrogate_notMem_ofText "é\r\n".toList)
  obtain rfl : "é\r\n".toList = s := CodePoint.ofText_injective hs
  have hmark : Utf8.mark <+: Utf8.mark ++ [0x61, 0x0D, 0x0A] := List.prefix_append _ _
  rw [if_pos hmark] at hsaved' hread
  refine ⟨_, _, _, hopen, rfl, rfl, hsaved, hsaved', hread.2 ⟨by decide, Or.inl hmark⟩, ?_⟩
  exact congrArg (Except.map _)
    (Utf8.encodePoints_surrogates "a".toList 0 [] (CodePoint.ofText "\r\n".toList) rfl)

end OpenFile
end Letterhead
