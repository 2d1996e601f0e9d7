import SessionEngine.Heartbeat

/-! Stripping, for any two tokens: either may be empty, both may be the same, and one may begin with the
other. `Strips` says token by token what may be taken off, and by `strips_iff` that is what `strip` takes
off, all of it and nothing else. -/

namespace SessionEngine.Heartbeat

/-- A whole token that is not empty stands at the head of the data. -/
def Headed (h : Heartbeat) (data : Bytes) : Prop := ∃ t, h.bytes t ≠ [] ∧ h.bytes t <+: data

/-- From the head of the data the tokens are taken off, one after the other, until none stands there. Where
both stand there it is a ping. -/
inductive Strips (h : Heartbeat) : Bytes → List Token → Bytes → Prop
  | done {data : Bytes} (hclear : ¬ h.Headed data) : Strips h data [] data
  | ping {data left : Bytes} {tokens : List Token} (hne : h.ping ≠ [])
      (hlater : Strips h data tokens left) : Strips h (h.ping ++ data) (.ping :: tokens) left
  | pong {data left : Bytes} {tokens : List Token} (hne : h.pong ≠ [])
      (hfirst : h.ping ≠ [] → ¬ h.ping <+: h.pong ++ data) (hlater : Strips h data tokens left) :
      Strips h (h.pong ++ data) (.pong :: tokens) left

variable {h h' : Heartbeat} {data more left rest : Bytes} {tokens : List Token}

theorem headed_iff : h.Headed data ↔
    (h.ping ≠ [] ∧ h.ping <+: data) ∨ (h.pong ≠ [] ∧ h.pong <+: data) := by
  constructor
  · rintro ⟨t, hne, hhead⟩
    cases t with
    | ping => exact .inl ⟨hne, hhead⟩
    | pong => exact .inr ⟨hne, hhead⟩
  · rintro (hping | hpong)
    · exact ⟨.ping, hping⟩
    · exact ⟨.pong, hpong⟩

/-- Only the tokens of a heartbeat say what is headed by one. -/
theorem headed_congr (hping : h'.ping = h.ping) (hpong : h'.pong = h.pong) :
    h'.Headed data ↔ h.Headed data := by
  rw [headed_iff, headed_iff, hping, hpong]

theorem Headed.mono (hd : h.Headed data) (hpart : data <+: more) : h.Headed more := by
  obtain ⟨t, hne, hhead⟩ := hd
  exact ⟨t, hne, hhead.trans hpart⟩

theorem not_headed_nil (h : Heartbeat) : ¬ h.Headed [] := by
  rintro ⟨t, hne, hhead⟩
  exact hne (List.prefix_nil.mp hhead)

/-! ### One token -/

theorem afterToken?_eq_some_iff {token : Bytes} :
    afterToken? token data = some rest ↔ token ≠ [] ∧ data = token ++ rest := by
  constructor
  · exact fun h => (afterToken?_some h).symm
  · rintro ⟨hne, hdata⟩
    rw [afterToken?, if_neg (by simpa using hne)]
    exact Bytes.after?_eq_some_iff.mpr hdata

theorem afterToken?_eq_none {token : Bytes} :
    afterToken? token data = none ↔ (token ≠ [] → ¬ token <+: data) := by
  rw [Option.eq_none_iff_forall_ne_some]
  constructor
  · rintro hnone hne ⟨rest, hrest⟩
    exact hnone rest (afterToken?_eq_some_iff.mpr ⟨hne, hrest.symm⟩)
  · intro hno rest hrest
    obtain ⟨hne, rfl⟩ := afterToken?_eq_some_iff.mp hrest
    exact hno hne (List.prefix_append token rest)

/-- No token is found exactly where none stands. -/
theorem head?_eq_none_iff_not_headed : h.head? data = none ↔ ¬ h.Headed data := by
  rw [headed_iff, not_or, not_and, not_and]
  unfold head?
  split
  next r hping => simp [afterToken?_eq_some_iff.mp hping]
  next hping =>
    rw [Option.map_eq_none_iff, afterToken?_eq_none]
    exact ⟨fun hpong => ⟨afterToken?_eq_none.mp hping, hpong⟩, And.right⟩

theorem head?_ping (hne : h.ping ≠ []) (data : Bytes) : h.head? (h.ping ++ data) = some (.ping, data) := by
  rw [head?, afterToken?_eq_some_iff.mpr ⟨hne, rfl⟩]

theorem head?_pong (hne : h.pong ≠ []) (hfirst : h.ping ≠ [] → ¬ h.ping <+: h.pong ++ data) :
    h.head? (h.pong ++ data) = some (.pong, data) := by
  rw [head?, afterToken?_eq_none.mpr hfirst, afterToken?_eq_some_iff.mpr ⟨hne, rfl⟩]
  rfl

/-- A ping is found where one stands, and a pong only where no ping does. -/
theorem head?_cases {t : Token} (hhead : h.head? data = some (t, rest)) :
    (t = .ping ∧ h.ping ≠ [] ∧ data = h.ping ++ rest) ∨
      (t = .pong ∧ h.pong ≠ [] ∧ data = h.pong ++ rest ∧ (h.ping ≠ [] → ¬ h.ping <+: data)) := by
  unfold head? at hhead
  split at hhead
  next r hping =>
    cases hhead
    exact .inl ⟨rfl, afterToken?_eq_some_iff.mp hping⟩
  next hping =>
    obtain ⟨r, hpong, heq⟩ := Option.map_eq_some_iff.mp hhead
    cases heq
    obtain ⟨hne, hdata⟩ := afterToken?_eq_some_iff.mp hpong
    exact .inr ⟨rfl, hne, hdata, afterToken?_eq_none.mp hping⟩

/-! ### All tokens -/

theorem strip_of_some {t : Token} (hhead : h.head? data = some (t, rest)) :
    h.strip data = (t :: (h.strip rest).1, (h.strip rest).2) := by
  rw [strip]
  split
  next hnone => rw [hhead] at hnone; cases hnone
  next hsome => rw [hhead] at hsome; cases hsome; rfl

theorem strip_of_none (hhead : h.head? data = none) : h.strip data = ([], data) := by
  rw [strip]
  split
  · rfl
  next hsome => rw [hhead] at hsome; cases hsome

theorem strips_strip (h : Heartbeat) (data : Bytes) :
    h.Strips data (h.strip data).1 (h.strip data).2 := by
  fun_induction h.strip data with
  | case1 data hhead => exact .done (head?_eq_none_iff_not_headed.mp hhead)
  | case2 data t rest hhead _ tokens left hstrip ih =>
    rw [hstrip] at ih
    rcases head?_cases hhead with ⟨rfl, hne, rfl⟩ | ⟨rfl, hne, rfl, hfirst⟩
    · exact .ping hne ih
    · exact .pong hne hfirst ih

/-- Stripping takes off the tokens that stand at the head, and leaves what stands behind them. -/
theorem strips_iff : h.Strips data tokens left ↔ h.strip data = (tokens, left) := by
  constructor
  · intro hstrips
    induction hstrips with
    | done hclear => exact strip_of_none (head?_eq_none_iff_not_headed.mpr hclear)
    | ping hne _ ih => rw [strip_of_some (head?_ping hne _), ih]
    | pong hne hfirst _ ih => rw [strip_of_some (head?_pong hne hfirst), ih]
  · intro hstrip
    have hstrips := h.strips_strip data
    rwa [hstrip] at hstrips

theorem Strips.not_headed (hs : h.Strips data tokens left) : ¬ h.Headed left := by
  induction hs with
  | done hclear => exact hclear
  | ping _ _ ih => exact ih
  | pong _ _ _ ih => exact ih

end SessionEngine.Heartbeat
