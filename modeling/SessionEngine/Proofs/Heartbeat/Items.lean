import SessionEngine.Proofs.Heartbeat.Stripping

/-! Streams in which the tokens of a heartbeat and messages follow each other in any order. The main
statement is `strip_items`: what stripping takes off the head of a piece of such a stream is what the
stream starts with, so a token is recognized wherever the stream is cut. -/

namespace SessionEngine

/-- A token or a message in a stream. -/
inductive Item where
  | token (t : Token)
  | body (data : Bytes)
  deriving DecidableEq, Repr

namespace Item

def bytes (h : Heartbeat) : Item → Bytes
  | .token t => h.bytes t
  | .body data => data

def body? : Item → Option Bytes
  | .token _ => none
  | .body data => some data

def token? : Item → Option Token
  | .token t => some t
  | .body _ => none

@[simp] theorem body?_tokens (tokens : List Token) :
    (tokens.map Item.token).filterMap Item.body? = [] := by
  simp [List.filterMap_map, Function.comp_def, body?]

@[simp] theorem token?_tokens (tokens : List Token) :
    (tokens.map Item.token).filterMap Item.token? = tokens := by
  have htoken : Item.token? ∘ Item.token = some := rfl
  rw [List.filterMap_map, htoken, List.filterMap_some]

theorem token?_eq_some {item : Item} {t : Token} : item.token? = some t ↔ item = .token t := by
  cases item with
  | token t' => exact ⟨fun h => congrArg Item.token (Option.some.inj h), fun h => by cases h; rfl⟩
  | body data => exact ⟨nofun, nofun⟩

theorem count_token? (items : List Item) (t : Token) :
    (items.filterMap token?).count t = items.count (.token t) := by
  induction items with
  | nil => rfl
  | cons item items ih =>
    cases item with
    | token t' =>
      have hcons : (Item.token t' :: items).filterMap token? = t' :: items.filterMap token? := rfl
      rw [hcons, List.count_cons, List.count_cons, ih]
      simp
    | body data =>
      rw [List.filterMap_cons_none rfl, ih, List.count_cons]
      simp

/-- What has come of a stream is the items that are gone and the head of what is left. -/
theorem eq_append_of_left {h : Heartbeat} {gone left : List Item} {fed data future : Bytes}
    (hfed : fed ++ future = (gone ++ left).flatMap (bytes h))
    (hleft : data ++ future = left.flatMap (bytes h)) : fed = gone.flatMap (bytes h) ++ data := by
  rw [List.flatMap_append, ← hleft, ← List.append_assoc] at hfed
  exact List.append_cancel_right hfed

end Item

namespace Heartbeat

/-- No token is empty, and none starts with the other one. -/
structure Distinct (h : Heartbeat) : Prop where
  nonempty : ∀ token, h.bytes token ≠ []
  apart : ∀ {token token'}, h.bytes token <+: h.bytes token' → token = token'

/-- Messages that cannot be taken for a token, however much of either has come. -/
def Legible (h : Heartbeat) (items : List Item) : Prop :=
  ∀ data, .body data ∈ items → ∀ token, ¬ h.bytes token <+: data ∧ ¬ data <+: h.bytes token

variable {h : Heartbeat}

theorem Legible.tail {item : Item} {items : List Item} (hl : h.Legible (item :: items)) :
    h.Legible items :=
  fun data hdata => hl data (List.mem_cons_of_mem _ hdata)

/-- Nothing is stripped exactly where neither token stands. -/
theorem head?_eq_none_iff (hd : h.Distinct) {data : Bytes} :
    h.head? data = none ↔ ∀ token, ¬ h.bytes token <+: data := by
  rw [head?_eq_none_iff_not_headed, Headed, not_exists]
  exact forall_congr' fun token => not_congr (and_iff_right (hd.nonempty token))

/-- A stream that starts with the bytes of a token starts with the token. -/
theorem eq_cons_token (hd : h.Distinct) {items : List Item} (hl : h.Legible items) {token : Token}
    {rest : Bytes} (hbytes : h.bytes token ++ rest = items.flatMap (Item.bytes h)) :
    ∃ items', items = .token token :: items' ∧ rest = items'.flatMap (Item.bytes h) := by
  cases items with
  | nil => exact absurd (List.append_eq_nil_iff.mp hbytes).1 (hd.nonempty token)
  | cons item items =>
    rw [List.flatMap_cons] at hbytes
    have hahead : h.bytes token <+: item.bytes h ++ items.flatMap (Item.bytes h) := ⟨rest, hbytes⟩
    -- The token and the first item are both heads of the stream, so one is a head of the other.
    have hcompare := List.prefix_or_prefix_of_prefix hahead (List.prefix_append _ _)
    cases item with
    | token token' =>
      obtain rfl : token = token' := by
        rcases hcompare with hpre | hpre
        · exact hd.apart hpre
        · exact (hd.apart hpre).symm
      exact ⟨items, rfl, List.append_cancel_left hbytes⟩
    | body data =>
      obtain ⟨hno, hno'⟩ := hl data List.mem_cons_self token
      rcases hcompare with hpre | hpre
      · exact absurd hpre hno
      · exact absurd hpre hno'

/-- Stripping a piece of a stream takes off the tokens that the stream starts with. -/
theorem strip_items (hd : h.Distinct) {items : List Item} (hl : h.Legible items) {data future : Bytes}
    (hbytes : data ++ future = items.flatMap (Item.bytes h)) :
    ∃ rest, items = (h.strip data).1.map .token ++ rest ∧
      (h.strip data).2 ++ future = rest.flatMap (Item.bytes h) := by
  fun_induction h.strip data generalizing items with
  | case1 data hnone => exact ⟨items, rfl, hbytes⟩
  | case2 data token rest hhead _ tokens rest' hstrip ih =>
    rw [(head?_some hhead).1, List.append_assoc] at hbytes
    obtain ⟨items', rfl, hrest⟩ := eq_cons_token hd hl hbytes
    obtain ⟨items'', hitems, hbytes'⟩ := ih hl.tail hrest
    rw [hstrip] at hitems hbytes'
    exact ⟨items'', by rw [hitems]; rfl, hbytes'⟩

/-- Where no token stands at the head of a piece, and the stream goes on with a token, the piece is a
part of that token. -/
theorem prefix_of_head? (hd : h.Distinct) {data future : Bytes} (hhead : h.head? data = none)
    {token : Token} {items : List Item}
    (hbytes : data ++ future = (Item.token token :: items).flatMap (Item.bytes h)) :
    data <+: h.bytes token := by
  have hdata : data <+: (Item.token token :: items).flatMap (Item.bytes h) := ⟨future, hbytes⟩
  have hahead : h.bytes token <+: (Item.token token :: items).flatMap (Item.bytes h) :=
    List.prefix_append _ _
  rcases List.prefix_or_prefix_of_prefix hdata hahead with hpre | hpre
  · exact hpre
  · exact absurd hpre ((head?_eq_none_iff hd).mp hhead token)

/-! ### The arrival of tokens -/

theorem head?_congr {g : Heartbeat} (hping : g.ping = h.ping) (hpong : g.pong = h.pong) (data : Bytes) :
    g.head? data = h.head? data := by
  rw [head?, hping, hpong, ← head?]

/-- What is stripped depends on the tokens alone. -/
theorem strip_congr {g : Heartbeat} (hping : g.ping = h.ping) (hpong : g.pong = h.pong) (data : Bytes) :
    g.strip data = h.strip data := by
  fun_induction h.strip data with
  | case1 data hnone => exact strip_of_none ((head?_congr hping hpong data).trans hnone)
  | case2 data token rest hhead _ tokens rest' hstrip ih =>
    rw [strip_of_some ((head?_congr hping hpong data).trans hhead), ih, hstrip]

theorem strip_receive (h : Heartbeat) (tokens : List Token) (data : Bytes) :
    (h.receive tokens).strip data = h.strip data :=
  strip_congr (g := h.receive tokens) (h := h) rfl rfl data

theorem receive_nil (h : Heartbeat) : h.receive [] = h := by
  simp [receive]

theorem receive_receive (h : Heartbeat) (tokens more : List Token) :
    (h.receive tokens).receive more = h.receive (tokens ++ more) := by
  simp [receive, Bool.or_assoc]

end Heartbeat

end SessionEngine
