import SessionEngine.Proofs.Heartbeat.Blend

/-! Streams of lines and tokens, and the pieces of them that a line splitter sees. A part of a token
never holds a line feed, so a line splitter waits for the rest of it (`Mixes.blends`). -/

namespace SessionEngine

/-- Bytes with exactly one line feed, at the end. -/
def Bytes.IsLine (data : Bytes) : Prop :=
  ∃ text, data = text ++ [Bytes.newline] ∧ Bytes.newline ∉ text

namespace Cut

/-- Lines are cut at the first line feed, and never refused. -/
theorem step?_line_cases (data : Bytes) :
    (Bytes.newline ∉ data ∧ step? Framing.line.find data = .ok none) ∨
      ∃ text rest, data = text ++ Bytes.newline :: rest ∧ Bytes.newline ∉ text ∧
        step? Framing.line.find data = .ok (some (text ++ [Bytes.newline], rest)) := by
  cases hfind : Line.find data with
  | needMore =>
    refine .inl ⟨Line.find_eq_needMore_iff.mp hfind, ?_⟩
    unfold step?
    split
    · rfl
    · simp only [Framing.find, hfind]
  | complete n =>
    obtain ⟨text, rest, rfl, htext, rfl⟩ := Line.find_eq_complete_iff.mp hfind
    refine .inr ⟨text, rest, rfl, htext, ?_⟩
    have hne : ¬ (text ++ Bytes.newline :: rest).isEmpty = true := by simp
    have hle : text.length + 1 ≤ (text ++ Bytes.newline :: rest).length := by simp
    have hsplit : text ++ Bytes.newline :: rest = (text ++ [Bytes.newline]) ++ rest := by simp
    have hlength : text.length + 1 = (text ++ [Bytes.newline]).length := by simp
    simp only [step?, if_neg hne, Framing.find, hfind, if_pos hle]
    rw [hsplit, List.take_left' hlength.symm, List.drop_left' hlength.symm]

end Cut

theorem Line.append_inj {text text' rest rest' : Bytes}
    (h : text ++ Bytes.newline :: rest = text' ++ Bytes.newline :: rest')
    (htext : Bytes.newline ∉ text) (htext' : Bytes.newline ∉ text') : text = text' ∧ rest = rest' := by
  have hfind := Line.find_eq_complete_iff.mpr ⟨text, rest, rfl, htext, rfl⟩
  rw [Line.find_eq_complete_iff.mpr ⟨text', rest', h, htext', rfl⟩] at hfind
  have hlength : text.length = text'.length := by
    have := Split.complete.inj hfind
    omega
  obtain ⟨heq, hrest⟩ := List.append_inj h hlength
  exact ⟨heq, List.tail_eq_of_cons_eq hrest⟩

namespace Framing

theorem step?_line_of_no_newline {data : Bytes} (h : Bytes.newline ∉ data) :
    Cut.step? line.find data = .ok none := by
  rcases Cut.step?_line_cases data with ⟨-, hstep⟩ | ⟨text, rest, rfl, -, -⟩
  · exact hstep
  · exact absurd (List.mem_append_right text List.mem_cons_self) h

theorem waits_of_no_newline {data : Bytes} (h : Bytes.newline ∉ data) : line.Waits data :=
  fun _ hpart _ => step?_line_of_no_newline fun hmem => h (hpart.subset hmem)

theorem isMessage_of_isLine {data : Bytes} (h : Bytes.IsLine data) : line.IsMessage data := by
  obtain ⟨text, rfl, htext⟩ := h
  refine ⟨fun part hpart hne => step?_line_of_no_newline fun hmem => ?_, fun rest => ?_⟩
  · -- The only line feed is at the end, which a part does not reach.
    rcases List.prefix_concat_iff.mp hpart with heq | hpart
    · exact hne heq
    · exact htext (hpart.subset hmem)
  · rw [List.append_assoc, List.singleton_append]
    rcases Cut.step?_line_cases (text ++ Bytes.newline :: rest) with ⟨hno, -⟩ | ⟨_, _, heq, hno, hstep⟩
    · exact absurd (List.mem_append_right text List.mem_cons_self) hno
    · obtain ⟨rfl, rfl⟩ := Line.append_inj heq htext hno
      exact hstep

end Framing

namespace Heartbeat

variable {h : Heartbeat}

/-- Tokens and lines that can be told apart: no token holds a line feed, and no line starts with a
token. -/
structure Mixes (h : Heartbeat) (items : List Item) : Prop where
  distinct : h.Distinct
  tokens : ∀ t, Bytes.newline ∉ h.bytes t
  lines : ∀ data, .body data ∈ items → Bytes.IsLine data ∧ ∀ t, ¬ h.bytes t <+: data

theorem Mixes.legible {items : List Item} (hm : h.Mixes items) : h.Legible items := by
  intro data hdata t
  obtain ⟨⟨text, rfl, -⟩, hno⟩ := hm.lines data hdata
  refine ⟨hno t, fun hpre => hm.tokens t ?_⟩
  exact hpre.subset (List.mem_append_right _ (List.mem_singleton.mpr rfl))

/-- Lines and tokens that can be told apart blend under line framing. -/
theorem Mixes.blends {items : List Item} (hm : h.Mixes items) : h.Blends .line items :=
  ⟨hm.distinct, fun t => Framing.waits_of_no_newline (hm.tokens t), hm.legible,
    fun data hdata => Framing.isMessage_of_isLine (hm.lines data hdata).1⟩

end Heartbeat

end SessionEngine
