import SessionEngine.Proofs.Heartbeat.Blend

/-! Streams of length frames and tokens. A token has no header, so a part of it that is as long as a
header is read as one. `waits_length_iff` says for which tokens that does no harm: those that are over
before a header is, and those whose first bytes announce a frame that is admitted and not over before the
token is. With such tokens frames blend (`Interleaves.blends`). -/

namespace SessionEngine

namespace Length

/-- However `token` is cut, its first part is neither refused nor taken for a whole frame. -/
def Sheltered (limit : Nat) (token : Bytes) : Prop :=
  token.length ≤ headerLength ∨
    announced token ≤ limit ∧ token.length ≤ headerLength + announced token

instance (limit : Nat) (token : Bytes) : Decidable (Sheltered limit token) :=
  inferInstanceAs (Decidable (_ ∨ _))

/-- A frame whose body the limit admits and whose header can tell the length of the body. -/
def IsFrame (limit : Nat) (data : Bytes) : Prop :=
  ∃ body, data = frame body ∧ body.length ≤ limit ∧ body.length < UInt32.size

theorem length_frame (body : Bytes) : (frame body).length = headerLength + body.length := by
  rw [frame, List.length_append]
  rfl

theorem find_of_short {limit : Nat} {data : Bytes} (h : data.length < headerLength) :
    find limit data = .ok .needMore := by
  rw [find, if_pos h]

theorem announced_of_prefix_of {part data : Bytes} (hpart : part <+: data)
    (hheader : headerLength ≤ part.length) : announced data = announced part := by
  obtain ⟨rest, rfl⟩ := hpart
  exact Cut.announced_append hheader rest

end Length

namespace Framing

open Length

variable {limit : Nat}

theorem step?_of_needMore {f : Framing} {data : Bytes} (h : f.find data = .ok .needMore) :
    Cut.step? f.find data = .ok none := by
  rw [Cut.step?, h]
  split <;> rfl

theorem needMore_of_step? {data : Bytes} (hne : data ≠ [])
    (h : Cut.step? (length limit).find data = .ok none) : Length.find limit data = .ok .needMore := by
  have hne' : ¬ data.isEmpty = true := by simpa using hne
  rw [Cut.step?, if_neg hne'] at h
  split at h
  · cases h
  next hfind => exact hfind
  · cases h
  · split at h <;> cases h

/-- A part of a token is neither cut nor refused exactly where the token is sheltered. -/
theorem waits_length_iff {token : Bytes} : (length limit).Waits token ↔ Sheltered limit token := by
  constructor
  · intro hwaits
    by_cases hshort : token.length ≤ headerLength
    · exact .inl hshort
    · -- The parts that decide are the header and the frame that it announces.
      have hpart : ∀ n, headerLength ≤ n → n < token.length → (token.take n).length = n ∧
          announced token = announced (token.take n) ∧
          Length.find limit (token.take n) = .ok .needMore := by
        intro n hheader hn
        have hlength : (token.take n).length = n := List.length_take_of_le (by omega)
        have hne : token.take n ≠ token := fun heq => by rw [heq] at hlength; omega
        have hsome : token.take n ≠ [] := fun hnil => by
          rw [hnil, List.length_nil] at hlength
          exact absurd hheader (by rw [← hlength]; decide)
        exact ⟨hlength, announced_of_prefix_of (List.take_prefix n token) (by omega),
          needMore_of_step? hsome (hwaits _ (List.take_prefix n token) hne)⟩
      obtain ⟨hlength, hsame, hheader⟩ := hpart headerLength (Nat.le_refl _) (by omega)
      have hadmitted : ¬ limit < announced token := fun hbig => by
        rw [find_eq_error_iff.mpr ⟨by omega, by omega, rfl⟩] at hheader
        cases hheader
      have hlong : ¬ headerLength + announced token < token.length := fun hlt => by
        obtain ⟨hlength, hsame, hframe⟩ := hpart (headerLength + announced token) (by omega) hlt
        rw [Length.find, hlength, ← hsame, if_neg (by omega), if_neg hadmitted, if_neg (by omega)]
          at hframe
        cases hframe
      exact .inr ⟨by omega, by omega⟩
  · intro hsheltered part hpart hne
    have hlt : part.length < token.length := by
      have hle := hpart.length_le
      have hdiffers : part.length ≠ token.length := fun heq => hne (hpart.eq_of_length heq)
      omega
    refine step?_of_needMore ?_
    by_cases hheader : part.length < headerLength
    · exact find_of_short hheader
    · rcases hsheltered with hshort | ⟨hadmitted, hlong⟩
      · omega
      · have hsame := announced_of_prefix_of hpart (by omega)
        rw [find, Length.find, if_neg hheader, ← hsame, if_neg (by omega), if_pos (by omega)]

theorem isMessage_of_isFrame {data : Bytes} (h : IsFrame limit data) :
    (length limit).IsMessage data := by
  obtain ⟨body, rfl, hlimit, hword⟩ := h
  have hannounced : announced (frame body) = body.length := by
    have happend := announced_frame_append body []
    rwa [List.append_nil, Nat.mod_eq_of_lt hword] at happend
  refine ⟨?_, fun rest => ?_⟩
  · rw [waits_length_iff, Sheltered, hannounced, length_frame]
    exact .inr ⟨hlimit, Nat.le_refl _⟩
  · have hfind : (length limit).find (frame body ++ rest) = .ok (.complete (frame body).length) :=
      find_frame_append rest hlimit hword
    obtain ⟨n, hn⟩ : ∃ n, (frame body).length = n + 1 := ⟨3 + body.length, by
      rw [length_frame, headerLength]
      omega⟩
    have hne : ¬ (frame body ++ rest).isEmpty = true := by simp [frame, Bytes.word]
    have hle : n + 1 ≤ (frame body ++ rest).length := by rw [List.length_append]; omega
    rw [Cut.step?, if_neg hne, hfind, hn]
    simp only [if_pos hle]
    rw [List.take_left' hn, List.drop_left' hn]

end Framing

namespace Heartbeat

variable {h : Heartbeat} {limit : Nat} {items : List Item}

/-- Tokens and frames that can be told apart when they are whole: no token starts with the other, and no
frame is taken for one. -/
structure Interleaves (h : Heartbeat) (limit : Nat) (items : List Item) : Prop where
  distinct : h.Distinct
  legible : h.Legible items
  frames : ∀ data, .body data ∈ items → Length.IsFrame limit data

theorem Interleaves.blends (hi : h.Interleaves limit items)
    (hsheltered : ∀ t, Length.Sheltered limit (h.bytes t)) : h.Blends (.length limit) items :=
  ⟨hi.distinct, fun t => Framing.waits_length_iff.mpr (hsheltered t), hi.legible,
    fun data hdata => Framing.isMessage_of_isFrame (hi.frames data hdata)⟩

end Heartbeat

end SessionEngine
