import Mathlib.Data.List.TakeDrop
import Mathlib.Data.List.TakeWhile
import KnowledgeGraph.Http.MediaType
import KnowledgeGraph.Http.Multipart
import KnowledgeGraph.Proofs.Http.Headers
import KnowledgeGraph.Proofs.Text.Case

/-!
# Media types in headers

A media type that was read can be sent again: its text is not empty, and has no character that may
not stand in a header. So can the type that a part of a form is said to be of.
-/

namespace KnowledgeGraph.Http

-- ---------------------------------------------------------------------------
-- Texts that may stand in a header
-- ---------------------------------------------------------------------------

theorem le_of_mem_utf8EncodeChar {c : Char} (h : 128 ≤ c.toNat) :
    ∀ b ∈ String.utf8EncodeChar c, 0x80 ≤ b := by
  have hbyte (n : Nat) (hlow : 128 ≤ n) (hhigh : n < 256) : (0x80 : UInt8) ≤ UInt8.ofNat n := by
    rw [UInt8.le_iff_toNat_le, Text.Utf8.toNat_ofNat hhigh]
    exact hlow
  unfold String.utf8EncodeChar
  rw [show c.val.toNat = c.toNat from rfl]
  generalize c.toNat = n at h
  dsimp only
  split_ifs
  · omega
  -- The longer forms differ in the number of their bytes, each of which has its mark.
  all_goals
    simp only [List.forall_mem_cons, List.not_mem_nil, false_imp_iff, implies_true, and_true]
    and_intros <;> exact hbyte _ (by omega) (by omega)

namespace MediaType

theorem legal_of_isQuotable {c : Char} (h : isQuotable c = true) :
    ∀ b ∈ String.utf8EncodeChar c, 0x20 ≤ b ∧ b ≠ 0x7F := by
  by_cases hascii : c.toNat < 128
  · revert h
    exact Text.of_below c hascii (by decide +kernel)
  · intro b hb
    have hle := le_of_mem_utf8EncodeChar (Nat.le_of_not_lt hascii) b hb
    refine ⟨UInt8.le_trans (by decide) hle, ?_⟩
    rintro rfl
    exact absurd hle (by decide)

theorem isLegalValue_bytes {s : String} (h : ∀ c ∈ s.toList, isQuotable c = true) :
    isLegalValue (Text.Utf8.bytes s) = true := by
  rw [← String.ofList_toList (s := s), Text.Utf8.bytes_ofList, isLegalValue, List.all_eq_true]
  intro b hb
  obtain ⟨c, hc, hb⟩ := List.mem_flatMap.mp hb
  obtain ⟨hlow, hne⟩ := legal_of_isQuotable (h c hc) b hb
  simp [hlow, hne]

-- ---------------------------------------------------------------------------
-- Characters of a media type
-- ---------------------------------------------------------------------------

theorem isQuotable_toLower {c : Char} (h : isQuotable c = true) :
    isQuotable c.toLower = true := by
  by_cases hascii : c.toNat < 128
  · revert h
    exact Text.of_below c hascii (by decide +kernel)
  · rw [Text.toLower_of_le (Nat.le_of_not_lt hascii)]
    exact h

theorem isQuotable_of_isToken {c : Char} (h : isToken c = true) : isQuotable c = true := by
  rw [isQuotable, Bool.and_eq_true, decide_eq_true_eq, bne_iff_ne]
  constructor
  · refine Nat.lt_of_not_le fun hle => ?_
    have hcontrol : isToken c = false := Text.of_below c (Nat.lt_succ_of_le hle) (by decide +kernel)
    cases h.symm.trans hcontrol
  · rintro rfl
    exact absurd h (by decide)

theorem isQuotable_fold {c : Char} (h : isQuotable c = true) (name : String) :
    isQuotable (fold name c) = true := by
  unfold fold
  split
  · exact isQuotable_toLower h
  · exact h

-- ---------------------------------------------------------------------------
-- What is read
-- ---------------------------------------------------------------------------

theorem exists_text_of_move {p p' : Progress} {place : Place} (hd : isQuotable d = true)
    (h : some (p.move place d) = some p') : ∃ d, isQuotable d = true ∧ p'.text = d :: p.text := by
  cases h
  exact ⟨d, hd, rfl⟩

theorem exists_text_of_step {p p' : Progress} (h : step p c = some p') :
    ∃ d, isQuotable d = true ∧ p'.text = d :: p.text := by
  unfold step at h
  cases hplace : p.place with
  | start =>
    simp only [hplace] at h
    split at h
    · next hspace => exact exists_text_of_move (hspace ▸ by decide) h
    · split at h
      · next htoken =>
        exact exists_text_of_move (isQuotable_toLower (isQuotable_of_isToken htoken)) h
      · cases h
  | name cs =>
    simp only [hplace] at h
    split at h
    · next htoken => exact exists_text_of_move (isQuotable_toLower (isQuotable_of_isToken htoken)) h
    · split at h
      · next hequals => exact exists_text_of_move (hequals ▸ by decide) h
      · cases h
  | value name cs =>
    simp only [hplace] at h
    split at h
    · next hquote => exact exists_text_of_move (hquote.1 ▸ by decide) h
    · split at h
      · next htoken =>
        exact exists_text_of_move (isQuotable_fold (isQuotable_of_isToken htoken) name) h
      · split at h
        · next hsemicolon =>
          exact exists_text_of_move (p := p.add name cs) (hsemicolon.1 ▸ by decide) h
        · cases h
  | quoted name cs =>
    simp only [hplace] at h
    split at h
    · next hquote =>
      exact exists_text_of_move (p := p.add name cs) (hquote.1 ▸ by decide) h
    · split at h
      · next hquotable => exact exists_text_of_move (isQuotable_fold hquotable name) h
      · cases h
  | closed =>
    simp only [hplace] at h
    split at h
    · next hsemicolon => exact exists_text_of_move (hsemicolon ▸ by decide) h
    · split at h
      · next hspace => exact exists_text_of_move (hspace ▸ by decide) h
      · cases h

def IsSendable (cs : List Char) : Prop := cs ≠ [] ∧ ∀ c ∈ cs, isQuotable c = true

theorem IsSendable.reverse (h : IsSendable cs) : IsSendable cs.reverse :=
  ⟨fun hnil => h.1 (List.reverse_eq_nil_iff.mp hnil), fun c hc => h.2 c (List.mem_reverse.mp hc)⟩

theorem isSendable_of_foldlM {cs : List Char} {p p' : Progress} (h : cs.foldlM step p = some p')
    (hp : IsSendable p.text) : IsSendable p'.text := by
  induction cs generalizing p with
  | nil =>
    cases h
    exact hp
  | cons c cs ih =>
    rw [List.foldlM_cons, Option.bind_eq_bind] at h
    obtain ⟨q, hstep, hrest⟩ := Option.bind_eq_some_iff.mp h
    obtain ⟨d, hd, htext⟩ := exists_text_of_step hstep
    refine ih hrest ?_
    rw [htext]
    exact ⟨List.cons_ne_nil _ _, List.forall_mem_cons.mpr ⟨hd, hp.2⟩⟩

theorem text_of_finish {p p' : Progress} (h : p.finish = some p') : p'.text = p.text := by
  unfold Progress.finish at h
  split at h <;> cases h <;> rfl

theorem isSendable_span (kind sub : List Char) : IsSendable
    (((kind.span isToken).1 ++ '/' :: (sub.span isToken).1).map Char.toLower) := by
  have htoken (cs : List Char) : ∀ c ∈ (cs.span isToken).1, isQuotable c.toLower = true := by
    intro c hc
    rw [List.span_eq_takeWhile_dropWhile] at hc
    exact isQuotable_toLower (isQuotable_of_isToken (List.mem_takeWhile_imp hc))
  refine ⟨by simp, ?_⟩
  simp only [List.forall_mem_map, List.forall_mem_append, List.forall_mem_cons]
  exact ⟨htoken kind, by decide, htoken sub⟩

theorem isSendable_text {m : MediaType} (h : read? s = some m) : IsSendable m.text.toList := by
  unfold read? at h
  dsimp only [Option.bind_eq_bind, Option.pure_def] at h
  split at h
  · next rest _ =>
    have hwhole := isSendable_span s.toList rest
    split at h
    · cases h
    · split at h
      · cases h
        rw [String.toList_ofList]
        exact hwhole
      · split at h
        · cases h
        · obtain ⟨p, hread, h⟩ := Option.bind_eq_some_iff.mp h
          obtain ⟨q, hfinish, h⟩ := Option.bind_eq_some_iff.mp h
          cases h
          dsimp only
          split
          · rw [String.toList_ofList]
            exact hwhole
          · rw [reversed, String.toList_ofList, text_of_finish hfinish]
            refine (isSendable_of_foldlM hread ⟨List.cons_ne_nil _ _, ?_⟩).reverse
            exact List.forall_mem_cons.mpr ⟨by decide, hwhole.reverse.2⟩
      · cases h
  · cases h

end MediaType

-- ---------------------------------------------------------------------------
-- What a part says of its content
-- ---------------------------------------------------------------------------

namespace Multipart

theorem exists_headers_of_readHead (h : readHead bs = .ok (some (part, content))) :
    ∃ hs, part = .ofHeaders hs := by
  unfold readHead at h
  split at h
  · cases h
  · split at h
    · split at h
      · cases h
      · next block content' _ =>
        cases hread : readHeaders block with
        | error fault =>
          rw [hread] at h
          cases h
        | ok hs =>
          rw [hread] at h
          cases h
          exact ⟨hs, rfl⟩
    · cases h

theorem exists_headers_of_findPart (h : findPart delimiter name bs = .ok (some (part, content))) :
    ∃ hs, part = .ofHeaders hs := by
  fun_induction findPart delimiter name bs with
  | case1 bs fault => cases h
  | case2 bs => cases h
  | case3 bs part' rest hhead hcut => cases h
  | case4 bs part' rest hhead content' rest' hcut hname =>
    cases h
    exact exists_headers_of_readHead hhead
  | case5 bs part' rest hhead content' rest' hcut hname ih => exact ih h

theorem isSendable_of_find {m : MediaType}
    (h : find boundary name body = .ok (some (part, content)))
    (hm : part.contentType = some m) : MediaType.IsSendable m.text.toList := by
  unfold find at h
  dsimp only at h
  split at h
  · cases h
  · obtain ⟨hs, rfl⟩ := exists_headers_of_findPart h
    obtain ⟨said, -, hread⟩ := Option.bind_eq_some_iff.mp hm
    exact MediaType.isSendable_text hread

end Multipart

end KnowledgeGraph.Http
