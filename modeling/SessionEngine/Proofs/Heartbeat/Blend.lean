import SessionEngine.Proofs.Framing.Growing
import SessionEngine.Proofs.Heartbeat.Items

/-! Streams in which the messages of a framing and the tokens of a heartbeat follow each other, and the
pieces of them that a splitter sees. As long as the framing waits for every part of a token, a message
that is cut from a piece without a token at its head is the one that the stream goes on with
(`Blends.step?_cases`). A stream of messages alone is cut into these (`all_messages`). -/

namespace SessionEngine

namespace Framing

/-- Of `data`, as long as it is not whole, the framing cuts nothing and refuses nothing. -/
def Waits (f : Framing) (data : Bytes) : Prop :=
  ∀ part, part <+: data → part ≠ data → Cut.step? f.find part = .ok none

/-- `data` is cut off as one message once it is whole, whatever follows it. -/
structure IsMessage (f : Framing) (data : Bytes) : Prop where
  waits : f.Waits data
  cut : ∀ rest, Cut.step? f.find (data ++ rest) = .ok (some (data, rest))

/-- Cutting gives back the messages that a stream was put together from, and leaves what is waited for
behind them. -/
theorem all_messages {f : Framing} {messages : List Bytes} (h : ∀ data ∈ messages, f.IsMessage data)
    {tail : Bytes} (htail : Cut.step? f.find tail = .ok none) :
    Cut.all f.find (messages.flatten ++ tail) = ⟨messages, none, tail⟩ := by
  induction messages with
  | nil => exact Cut.all_of_none htail
  | cons data messages ih =>
    have hcut := (h data List.mem_cons_self).cut (messages.flatten ++ tail)
    rw [List.flatten_cons, List.append_assoc, Cut.all_of_some hcut,
      ih fun data' hdata' => h data' (List.mem_cons_of_mem data hdata')]
    rfl

end Framing

namespace Heartbeat

/-- Tokens and messages that can be told apart: the framing waits for every part of a token, and no
message is taken for one. -/
structure Blends (h : Heartbeat) (f : Framing) (items : List Item) : Prop where
  distinct : h.Distinct
  waits : ∀ t, f.Waits (h.bytes t)
  legible : h.Legible items
  messages : ∀ data, .body data ∈ items → f.IsMessage data

variable {h : Heartbeat} {f : Framing}

theorem Blends.tail {item : Item} {items : List Item} (hb : h.Blends f (item :: items)) :
    h.Blends f items :=
  ⟨hb.distinct, hb.waits, hb.legible.tail,
    fun data hdata => hb.messages data (List.mem_cons_of_mem item hdata)⟩

theorem Blends.right {items more : List Item} (hb : h.Blends f (items ++ more)) : h.Blends f more :=
  ⟨hb.distinct, hb.waits, fun data hdata => hb.legible data (List.mem_append_right items hdata),
    fun data hdata => hb.messages data (List.mem_append_right items hdata)⟩

theorem Blends.receive {items : List Item} (hb : h.Blends f items) (tokens : List Token) :
    (h.receive tokens).Blends f items :=
  ⟨⟨hb.distinct.nonempty, hb.distinct.apart⟩, hb.waits, hb.legible, hb.messages⟩

/-- Of a piece without a token at its head, the framing cuts the message that the stream goes on with,
or waits. -/
theorem Blends.step?_cases {items : List Item} (hb : h.Blends f items) {data future : Bytes}
    (hhead : h.head? data = none) (hbytes : data ++ future = items.flatMap (Item.bytes h)) :
    Cut.step? f.find data = .ok none ∨
      ∃ message rest items', items = .body message :: items' ∧
        Cut.step? f.find data = .ok (some (message, rest)) ∧
        rest ++ future = items'.flatMap (Item.bytes h) := by
  cases items with
  | nil =>
    obtain ⟨rfl, -⟩ := List.append_eq_nil_iff.mp hbytes
    exact .inl rfl
  | cons item items =>
    cases item with
    | token t =>
      -- A piece that were the whole token would have it at its head.
      have hne : data ≠ h.bytes t := by
        rintro rfl
        exact (head?_eq_none_iff hb.distinct).mp hhead t List.prefix_rfl
      exact .inl (hb.waits t data (prefix_of_head? hb.distinct hhead hbytes) hne)
    | body message =>
      have hmessage := hb.messages message List.mem_cons_self
      rw [List.flatMap_cons] at hbytes
      have hdata : data <+: message ++ items.flatMap (Item.bytes h) := ⟨future, hbytes⟩
      rcases List.prefix_or_prefix_of_prefix hdata (List.prefix_append message _) with hpart | hwhole
      · by_cases heq : data = message
        · subst heq
          refine .inr ⟨data, [], items, rfl, ?_, List.append_cancel_left hbytes⟩
          have hcut := hmessage.cut []
          rwa [List.append_nil] at hcut
        · exact .inl (hmessage.waits data hpart heq)
      · obtain ⟨rest, rfl⟩ := hwhole
        rw [List.append_assoc] at hbytes
        exact .inr ⟨message, rest, items, rfl, hmessage.cut rest, List.append_cancel_left hbytes⟩

/-- Where neither a token nor a message is left, a stream that has come to its end is used up. -/
theorem Blends.eq_nil {items : List Item} (hb : h.Blends f items) {data : Bytes}
    (hhead : h.head? data = none) (hstep : Cut.step? f.find data = .ok none)
    (hbytes : data = items.flatMap (Item.bytes h)) : items = [] := by
  cases items with
  | nil => rfl
  | cons item items =>
    subst hbytes
    rw [List.flatMap_cons] at hhead hstep
    cases item with
    | token t =>
      exact absurd (List.prefix_append _ _) ((head?_eq_none_iff hb.distinct).mp hhead t)
    | body message =>
      have hcut := (hb.messages message List.mem_cons_self).cut (items.flatMap (Item.bytes h))
      rw [show Item.bytes h (.body message) = message from rfl, hcut] at hstep
      cases hstep

end Heartbeat

end SessionEngine
