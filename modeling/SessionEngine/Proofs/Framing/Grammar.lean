import SessionEngine.Proofs.Heartbeat.Frames

/-! Streams of length frames. `find_complete_iff` says that a frame is found exactly where one stands, and
`all_frames` that cutting gives back the frames that a stream was put together from, and leaves the part of
a frame that stands behind them. Both rest on `word_bigEndian`, by which a header tells one length only. -/

namespace SessionEngine

namespace Bytes

theorem bigEndian_four (a b c d : UInt8) : bigEndian [a, b, c, d] =
    ((a.toNat * 256 + b.toNat) * 256 + c.toNat) * 256 + d.toNat := by
  simp [bigEndian]

theorem ofNat_eq_of_mod {b : UInt8} {n : Nat} (h : n % 256 = b.toNat) : UInt8.ofNat n = b := by
  apply UInt8.toNat_inj.mp
  rw [UInt8.toNat_ofNat']
  exact h

/-- Four bytes are what is written for the number that they are read as. -/
theorem word_bigEndian {data : Bytes} (h : data.length = 4) : word (bigEndian data) = data := by
  obtain ⟨a, b, c, d, rfl⟩ : ∃ a b c d, data = [a, b, c, d] := by
    rcases data with _ | ⟨a, _ | ⟨b, _ | ⟨c, _ | ⟨d, _ | ⟨e, data⟩⟩⟩⟩⟩ <;> simp at h
    exact ⟨a, b, c, d, rfl⟩
  have ha := a.toNat_lt
  have hb := b.toNat_lt
  have hc := c.toNat_lt
  have hd := d.toNat_lt
  rw [bigEndian_four, word, ofNat_eq_of_mod (b := a) (by omega), ofNat_eq_of_mod (b := b) (by omega),
    ofNat_eq_of_mod (b := c) (by omega), ofNat_eq_of_mod (b := d) (by omega)]

end Bytes

namespace Length

variable {limit n : Nat} {data : Bytes}

theorem length_take_header (h : headerLength ≤ data.length) : (data.take headerLength).length = 4 :=
  List.length_take_of_le h

theorem announced_lt (h : headerLength ≤ data.length) : announced data < UInt32.size := by
  have hread := Bytes.bigEndian_word (announced data)
  rw [announced, Bytes.word_bigEndian (length_take_header h)] at hread
  rw [announced, hread]
  exact Nat.mod_lt _ (by decide)

theorem take_eq_frame (h : headerLength + announced data ≤ data.length) :
    data.take (headerLength + announced data) =
      frame ((data.take (headerLength + announced data)).drop headerLength) := by
  have hlength : ((data.take (headerLength + announced data)).drop headerLength).length =
      announced data := by
    rw [List.length_drop, List.length_take_of_le h]
    omega
  have hheader : (data.take (headerLength + announced data)).take headerLength =
      Bytes.word (announced data) := by
    rw [List.take_take, Nat.min_eq_left (by omega), announced,
      Bytes.word_bigEndian (length_take_header (by omega))]
  rw [frame, hlength, ← hheader, List.take_append_drop]

theorem find_complete_iff : find limit data = .ok (.complete n) ↔
    headerLength ≤ n ∧ n ≤ data.length ∧ n - headerLength ≤ limit ∧ n - headerLength < UInt32.size ∧
      data.take n = frame ((data.take n).drop headerLength) := by
  constructor
  · intro h
    unfold find at h
    split at h
    · cases h
    next hheader =>
      split at h
      · cases h
      next hbig =>
        split at h
        · cases h
        next hbody =>
          obtain rfl : headerLength + announced data = n := Split.complete.inj (Except.ok.inj h)
          have hlt : announced data < UInt32.size := announced_lt (by omega)
          exact ⟨by omega, by omega, by omega, by omega, take_eq_frame (by omega)⟩
  · rintro ⟨hheader, hle, hlimit, hword, hframe⟩
    have hlength : ((data.take n).drop headerLength).length = n - headerLength := by
      rw [List.length_drop, List.length_take_of_le hle]
    have hfind : find limit (frame ((data.take n).drop headerLength) ++ data.drop n) =
        .ok (.complete (frame ((data.take n).drop headerLength)).length) :=
      find_frame_append (data.drop n) (by omega) (by omega)
    rw [← hframe, List.take_append_drop, List.length_take_of_le hle] at hfind
    exact hfind

theorem find_needMore_iff : find limit data = .ok .needMore ↔
    data.length < headerLength ∨
      announced data ≤ limit ∧ data.length < headerLength + announced data := by
  unfold find
  split
  next hshort => exact ⟨fun _ => .inl hshort, fun _ => rfl⟩
  next hheader =>
    split
    next hbig => exact ⟨fun h => (by cases h), fun h => by omega⟩
    next hsmall =>
      split
      next hbody => exact ⟨fun _ => .inr ⟨by omega, hbody⟩, fun _ => rfl⟩
      next hwhole => exact ⟨fun h => (by cases h), fun h => by omega⟩

theorem find_of_part {whole part : Bytes} (hwhole : IsFrame limit whole) (hpart : part <+: whole)
    (hne : part ≠ whole) : find limit part = .ok .needMore := by
  by_cases hempty : part = []
  · rw [hempty]
    rfl
  · exact Framing.needMore_of_step? hempty ((Framing.isMessage_of_isFrame hwhole).waits part hpart hne)

/-- Cutting gives back the frames that a stream was put together from, and leaves the part behind them. -/
theorem all_frames {bodies : List Bytes}
    (hbodies : ∀ body ∈ bodies, body.length ≤ limit ∧ body.length < UInt32.size) {tail : Bytes}
    (htail : find limit tail = .ok .needMore) :
    Cut.all (find limit) (bodies.flatMap frame ++ tail) = ⟨bodies.map frame, none, tail⟩ := by
  have hmessages : ∀ data ∈ bodies.map frame, (Framing.length limit).IsMessage data := by
    intro data hdata
    obtain ⟨body, hbody, rfl⟩ := List.mem_map.mp hdata
    obtain ⟨hlimit, hword⟩ := hbodies body hbody
    exact Framing.isMessage_of_isFrame ⟨body, rfl, hlimit, hword⟩
  rw [List.flatMap_def]
  exact Framing.all_messages hmessages (Framing.step?_of_needMore htail)

end Length

open Length in
/-- Length framing and its grammar tell the same. A stream of frames whose bodies the limit admits, with
a part of such a frame behind them, is cut into these frames, and the part is left and waited for. And
whatever the data is: a frame is found exactly where one stands, data is refused exactly if its header
announces too much, and else more is waited for. -/
theorem frames_found_iff (limit : Nat) :
    (∀ (bodies : List Bytes) (tail whole : Bytes),
      (∀ body ∈ bodies, body.length ≤ limit ∧ body.length < UInt32.size) →
      IsFrame limit whole → tail <+: whole → tail ≠ whole →
      Cut.all (find limit) (bodies.flatMap frame ++ tail) = ⟨bodies.map frame, none, tail⟩ ∧
        find limit tail = .ok .needMore) ∧
    (∀ (data : Bytes) (n : Nat), find limit data = .ok (.complete n) ↔
      4 ≤ n ∧ n ≤ data.length ∧ n - 4 ≤ limit ∧ n - 4 < UInt32.size ∧
        data.take n = frame ((data.take n).drop 4)) ∧
    (∀ (data : Bytes) (fault : SplitFault), find limit data = .error fault ↔
      4 ≤ data.length ∧ limit < Bytes.bigEndian (data.take 4) ∧
        fault = .frameTooLarge (Bytes.bigEndian (data.take 4)) limit) ∧
    (∀ data : Bytes, find limit data = .ok .needMore ↔
      data.length < 4 ∨ Bytes.bigEndian (data.take 4) ≤ limit ∧
        data.length < 4 + Bytes.bigEndian (data.take 4)) := by
  refine ⟨fun bodies tail whole hbodies hwhole hpart hne => ?_, fun data n => find_complete_iff,
    fun data fault => find_eq_error_iff, fun data => find_needMore_iff⟩
  have htail := find_of_part hwhole hpart hne
  exact ⟨all_frames hbodies htail, htail⟩

open Length in
/-- Two frames, one of them without a body, and a third that lacks its last byte. -/
theorem frames_found_two :
    let bodies : List Bytes := [[104, 105], []]
    let tail : Bytes := [0, 0, 0, 3, 97, 98]
    ((∀ body ∈ bodies, body.length ≤ 4 ∧ body.length < UInt32.size) ∧ IsFrame 4 (frame [97, 98, 99]) ∧
        tail <+: frame [97, 98, 99] ∧ tail ≠ frame [97, 98, 99]) ∧
      Cut.all (find 4) [0, 0, 0, 2, 104, 105, 0, 0, 0, 0, 0, 0, 0, 3, 97, 98] =
        ⟨[[0, 0, 0, 2, 104, 105], [0, 0, 0, 0]], none, tail⟩ ∧
      find 4 tail = .ok .needMore := by
  intro bodies tail
  have hbodies : ∀ body ∈ bodies, body.length ≤ 4 ∧ body.length < UInt32.size := by decide
  have hwhole : IsFrame 4 (frame [97, 98, 99]) := ⟨[97, 98, 99], rfl, by decide, by decide⟩
  have hpart : tail <+: frame [97, 98, 99] := ⟨[99], rfl⟩
  have hne : tail ≠ frame [97, 98, 99] := by decide
  obtain ⟨hcut, hwaits⟩ := (frames_found_iff 4).1 bodies tail _ hbodies hwhole hpart hne
  exact ⟨⟨hbodies, hwhole, hpart, hne⟩, hcut, hwaits⟩

end SessionEngine
