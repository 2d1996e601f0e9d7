import SessionEngine.Proofs.Session.Cutting
import SessionEngine.Proofs.Session.Limit
import SessionEngine.Proofs.Tls.InOrder
import SessionEngine.Proofs.Tls.Records

/-! What a session gets of the plaintext in front of a record that its engine rejects. A feed that succeeds
brings to the buffer what the records carry that it completes (`feed_opens`). The feed in which the rejected
record is complete fails, and brings nothing: what the records carry that are complete only with it stays
withheld in the TLS layer (`feed_rejects`). So it depends on the cutting how much of it arrives
(`plaintext_before_rejected`). -/

namespace SessionEngine.Session

open Tls Sealed

variable {ε : Type} [RecordEngine ε]

/-- The session reads records through its TLS layer, whose engine has taken in `data`. -/
structure Reads (s : Session ε) (Has : Bytes → ε → Prop) (data : Bytes) : Prop where
  channel : ∃ c, s.tls = some c ∧ Has data c.engine ∧ c.ciphertext = [] ∧ c.received = [] ∧ c.held = []
  bare : s.heartbeatSlot? = none

/-- Takes in chunks, each at its time, until one fails. -/
def feedEach (s : Session ε) : List (Nat × Bytes) → Except Error Unit × Session ε
  | [] => (.ok (), s)
  | (now, chunk) :: rest =>
    match s.feed now chunk with
    | (.ok (), s) => s.feedEach rest
    | failed => failed

/-- The plaintext that was opened and has not left the TLS layer. -/
def withheld (s : Session ε) : Bytes := s.tls.elim [] Channel.withheld

variable {s : Session ε} {rs : List Sealed} {bad data : Bytes} {Has : Bytes → ε → Prop}

theorem feed_opens (hlaws : InOrder rs bad Has) (hs : s.Reads Has data) (now : Nat) {chunk before : Bytes}
    (hcut : data ++ chunk <+: written rs ++ bad)
    (hshort : (data ++ chunk).length < (written rs ++ bad).length)
    (hgot : s.buffer.contents = before ++ completed rs data.length)
    (hfits : before.length + (carried rs).length ≤ s.buffer.limit) : ∃ s',
      s.feed now chunk = (.ok (), s') ∧ s'.Reads Has (data ++ chunk) ∧
        s'.buffer.contents = before ++ completed rs (data ++ chunk).length ∧
        s'.buffer.limit = s.buffer.limit := by
  obtain ⟨c, htls, hhas, hciphertext, hreceived, hheld⟩ := hs.channel
  obtain ⟨engine, plain, hunwrap, hplain, hhas'⟩ :=
    Channel.unwrap_opens hlaws hhas hciphertext hreceived hheld hcut hshort
  obtain ⟨c', hc'⟩ : ∃ c' : Channel ε, c' = { c with engine } := ⟨_, rfl⟩
  obtain ⟨engine', hout, hhas''⟩ := Channel.takeOutbound_of_quiet (c := c') hlaws (by rw [hc']; exact hhas')
  obtain ⟨c'', hc''⟩ : ∃ c'' : Channel ε, c'' = { c' with engine := engine' } := ⟨_, rfl⟩
  have hroom : s.buffer.length + plain.length ≤ s.buffer.limit := by
    have hall := congrArg List.length (completed_append rs (data ++ chunk).length)
    have hplain' := congrArg List.length hplain
    rw [List.length_append] at hall hplain'
    rw [Buffer.length, hgot, List.length_append]
    omega
  obtain ⟨buffer, happend⟩ := Buffer.append_of_fits hroom now
  have hbare : ({ s with tls := some c'', buffer } : Session ε).intercept =
      { s with tls := some c'', buffer } :=
    intercept_of_bare (s := { s with tls := some c'', buffer }) hs.bare
  refine ⟨{ s with tls := some c'', buffer }, ?_, ⟨⟨c'', rfl, ?_, ?_⟩, hs.bare⟩, ?_,
    Buffer.limit_append happend⟩
  · simp only [feed, htls, hunwrap, ← hc', hout, ← hc'', List.isEmpty_nil, if_true, feedPlaintext, happend,
      hbare]
  · rw [hc'']
    exact hhas''
  · rw [hc'', hc']
    exact ⟨hciphertext, hreceived, hheld⟩
  · rw [Buffer.contents_append happend, hgot, List.append_assoc, hplain]

theorem feed_rejects (hlaws : InOrder rs bad Has) (hs : s.Reads Has data) (now : Nat) {chunk : Bytes}
    (hcut : written rs ++ bad <+: data ++ chunk) : ∃ fault s',
      s.feed now chunk = (.error (.ofFault fault), s') ∧ s'.buffer = s.buffer ∧
        carried (rs.drop (whole rs data.length)) <+: s'.withheld := by
  obtain ⟨c, htls, hhas, hciphertext, hreceived, -⟩ := hs.channel
  obtain ⟨fault, c', plain, hunwrap, hplain, hwithheld⟩ := Channel.unwrap_rejects hlaws hhas hciphertext hcut
  obtain rfl : plain = carried (rs.drop (whole rs data.length)) :=
    List.append_cancel_left (hplain.trans (completed_append rs data.length).symm)
  rw [hreceived] at hwithheld
  refine ⟨fault, { s with tls := some c' }, ?_, rfl, hwithheld⟩
  simp only [feed, htls, hunwrap]

theorem feedEach_opens (hlaws : InOrder rs bad Has) (hs : s.Reads Has data) {chunks : List (Nat × Bytes)}
    {before : Bytes} (hcut : data ++ chunks.flatMap Prod.snd <+: written rs ++ bad)
    (hshort : (data ++ chunks.flatMap Prod.snd).length < (written rs ++ bad).length)
    (hgot : s.buffer.contents = before ++ completed rs data.length)
    (hfits : before.length + (carried rs).length ≤ s.buffer.limit) : ∃ s',
      s.feedEach chunks = (.ok (), s') ∧ s'.Reads Has (data ++ chunks.flatMap Prod.snd) ∧
        s'.buffer.contents = before ++ completed rs (data ++ chunks.flatMap Prod.snd).length := by
  -- The induction is on the chunks; each of them completes the records that the bytes up to its end hold whole.
  induction chunks generalizing s data with
  | nil =>
    rw [List.flatMap_nil, List.append_nil]
    exact ⟨s, rfl, hs, hgot⟩
  | cons chunk chunks ih =>
    rw [List.flatMap_cons, ← List.append_assoc] at hcut hshort ⊢
    have hfirst : data ++ chunk.2 <+: data ++ chunk.2 ++ chunks.flatMap Prod.snd := List.prefix_append ..
    obtain ⟨s₁, hfeed, hreads, hcontents, hlimit⟩ := feed_opens hlaws hs chunk.1 (hfirst.trans hcut)
      (Nat.lt_of_le_of_lt hfirst.length_le hshort) hgot hfits
    obtain ⟨s', hgoesOn, hreads', hcontents'⟩ := ih hreads hcut hshort hcontents (hlimit ▸ hfits)
    refine ⟨s', ?_, hreads', hcontents'⟩
    rw [feedEach, hfeed]
    exact hgoesOn

/-- The chunk with which `n` bytes are there. -/
theorem exists_completing {chunks : List (Nat × Bytes)} {n : Nat} (hn : 0 < n)
    (h : n ≤ (chunks.flatMap Prod.snd).length) : ∃ before last after, chunks = before ++ last :: after ∧
      (before.flatMap Prod.snd).length < n ∧ n ≤ (before.flatMap Prod.snd ++ last.2).length := by
  induction chunks generalizing n with
  | nil => exact absurd h (Nat.not_le_of_lt hn)
  | cons chunk chunks ih =>
    by_cases hfirst : n ≤ chunk.2.length
    · exact ⟨[], chunk, chunks, rfl, hn, hfirst⟩
    · rw [List.flatMap_cons, List.length_append] at h
      obtain ⟨before, last, after, rfl, hshort, hlong⟩ := @ih (n - chunk.2.length) (by omega) (by omega)
      refine ⟨chunk :: before, last, after, rfl, ?_, ?_⟩
      · rw [List.flatMap_cons, List.length_append]
        omega
      · rw [List.length_append] at hlong
        rw [List.flatMap_cons, List.length_append, List.length_append]
        omega

theorem feedEach_of_failed {s s' s'' : Session ε} {before after : List (Nat × Bytes)}
    {last : Nat × Bytes} {e : Error}
    (hbefore : s.feedEach before = (.ok (), s')) (hlast : s'.feed last.1 last.2 = (.error e, s'')) :
    s.feedEach (before ++ last :: after) = (.error e, s'') := by
  induction before generalizing s with
  | nil =>
    cases hbefore
    rw [List.nil_append, feedEach, hlast]
  | cons chunk before ih =>
    rw [feedEach] at hbefore
    rw [List.cons_append, feedEach]
    rcases hfeed : s.feed chunk.1 chunk.2 with ⟨_ | ⟨⟩, s₁⟩
    · rw [hfeed] at hbefore
      cases hbefore
    · rw [hfeed] at hbefore
      exact ih hbefore

/-- A session whose handshake is over gets records of data and then one that its engine rejects, cut into
chunks in any way, with enough room for the data; a beginning of the first (`tail`) may be there already.
Every chunk is taken in up to the one that completes the rejected record; that one fails as a read. The
buffer then has what the records carry that were complete before that chunk, and nothing of what it
completes itself: that is opened, and stays withheld. So all data arrives exactly if that chunk completes
none. -/
theorem plaintext_before_rejected (hlaws : InOrder rs bad Has) {tail : Bytes} (hs : s.Reads Has tail)
    (htail : whole rs tail.length = 0) (hfits : s.buffer.length + (carried rs).length ≤ s.buffer.limit)
    (chunks : List (Nat × Bytes)) (hcut : written rs ++ bad <+: tail ++ chunks.flatMap Prod.snd) :
    ∃ before last after s' fault s'', chunks = before ++ last :: after ∧
      (tail ++ before.flatMap Prod.snd).length < (written rs ++ bad).length ∧
      (written rs ++ bad).length ≤ (tail ++ before.flatMap Prod.snd ++ last.2).length ∧
      s.feedEach before = (.ok (), s') ∧
      s'.feed last.1 last.2 = (.error (.read ⟨.invalidData, fault⟩), s'') ∧
      s.feedEach chunks = (.error (.read ⟨.invalidData, fault⟩), s'') ∧
      let k := whole rs (tail ++ before.flatMap Prod.snd).length
      s''.buffer.contents = s.buffer.contents ++ carried (rs.take k) ∧
      carried (rs.drop k) <+: s''.withheld ∧
      (s''.buffer.contents = s.buffer.contents ++ carried rs ↔ carried (rs.drop k) = []) := by
  obtain ⟨c, -, hhas, -⟩ := hs.channel
  have hmissing := hlaws.unfinished hhas
  have hlength : (written rs ++ bad).length ≤ tail.length + (chunks.flatMap Prod.snd).length := by
    rw [← List.length_append]
    exact hcut.length_le
  have hneeded : (written rs ++ bad).length - tail.length ≤ (chunks.flatMap Prod.snd).length := by omega
  obtain ⟨before, last, after, rfl, hshort, hlong⟩ := exists_completing (Nat.sub_pos_of_lt hmissing) hneeded
  have hshort' : (tail ++ before.flatMap Prod.snd).length < (written rs ++ bad).length := by
    rw [List.length_append]
    omega
  have hlong' : (written rs ++ bad).length ≤ (tail ++ before.flatMap Prod.snd ++ last.2).length := by
    have hsum : (tail ++ before.flatMap Prod.snd ++ last.2).length =
        tail.length + (before.flatMap Prod.snd ++ last.2).length := by
      rw [List.append_assoc, List.length_append]
    omega
  rw [List.flatMap_append, List.flatMap_cons, ← List.append_assoc, ← List.append_assoc] at hcut
  have hcompleting : written rs ++ bad <+: tail ++ before.flatMap Prod.snd ++ last.2 :=
    List.prefix_of_prefix_length_le hcut (List.prefix_append ..) hlong'
  have hsound : tail ++ before.flatMap Prod.snd <+: written rs ++ bad :=
    List.prefix_of_prefix_length_le (List.prefix_append ..) hcompleting (Nat.le_of_lt hshort')
  obtain ⟨s', hfeeds, hreads, hcontents⟩ := feedEach_opens hlaws hs hsound hshort'
    (by rw [completed_of_whole htail, List.append_nil]) hfits
  obtain ⟨fault, s'', hfeed, hbuffer, hwithheld⟩ := feed_rejects hlaws hreads last.1 hcompleting
  refine ⟨before, last, after, s', fault.message, s'', rfl, hshort', hlong', hfeeds, hfeed,
    feedEach_of_failed hfeeds hfeed, ?_, hwithheld, ?_⟩
  · rw [hbuffer, hcontents, completed]
  · rw [hbuffer, hcontents, List.append_cancel_left_eq, ← completed_append rs, List.self_eq_append_right]

/-- A server that has agreed on version 1.3 and has opened nothing yet. -/
def greeted : Engine where
  role := .server
  policy := { protocol := .any, credential := none, anchors := [], clientAuth := false }
  serverName := none
  seed := 0
  version := some .tls13
  expected := .traffic
  receiving := ⟨some [7], 0⟩

/-- The first record of its client. -/
def firstRecord : Sealed where
  record := (Record.protect .tls13 [7] 0 { type := .applicationData, payload := [97, 98, 99] }).encode
  payload := [97, 98, 99]

def listening : Session Engine :=
  { (Session.new 0 (.server "localhost" 6380) .line : Session Engine) with
    tls := some (.ofEngine greeted 0 .server) }

theorem ready_greeted : greeted.Ready := ⟨rfl, rfl, rfl, rfl, rfl⟩

theorem opens_firstRecord : greeted.OpensAll [firstRecord] (greeted.past firstRecord.payload) :=
  .cons (Engine.opens_protect rfl (by decide) (by decide)) (.nil _)

/-- A record that comes a second time does not open. -/
theorem rejects_firstRecord : (greeted.past firstRecord.payload).Rejects firstRecord.record := by
  have hnext := Record.next?_encode
    (r := Record.protect .tls13 [7] 0 { type := .applicationData, payload := [97, 98, 99] })
    rfl (by decide) (.inl rfl) []
  rw [List.append_nil] at hnext
  exact Engine.rejects_of_unopened (ready_greeted.past _) rfl hnext rfl (by decide +kernel) rfl

theorem reads_listening : listening.Reads
    (Engine.Within [firstRecord] firstRecord.record (greeted.past firstRecord.payload)) [] :=
  ⟨⟨_, rfl, ⟨by decide, greeted, 0, [], rfl, ready_greeted, opens_firstRecord, rfl, rfl⟩, rfl, rfl, rfl⟩, rfl⟩

/-- The record comes and comes again, cut within its head: what it carries is in the buffer. -/
theorem plaintext_before_rejected_replay :
    let chunks := [(0, firstRecord.record ++ firstRecord.record.take 4), (5, firstRecord.record.drop 4)]
    ∃ fault s', listening.feedEach chunks = (.error (.read ⟨.invalidData, fault⟩), s') ∧
      s'.buffer.contents = [97, 98, 99] := by
  intro chunks
  obtain ⟨before, last, after, s', fault, s'', -, -, -, -, -, hall, -⟩ :=
    plaintext_before_rejected (Engine.inOrder rejects_firstRecord) reads_listening (by decide) (by decide)
      chunks (by decide)
  have hcontents : (listening.feedEach chunks).2.buffer.contents = [97, 98, 99] := by decide +kernel
  rw [hall] at hcontents
  exact ⟨fault, s'', hall, hcontents⟩

/-- Both come in one chunk: nothing is in the buffer. -/
theorem plaintext_lost :
    ¬ ∀ (s : Session Engine) (rs : List Sealed) (bad : Bytes) (Has : Bytes → Engine → Prop)
      (chunks : List (Nat × Bytes)), InOrder rs bad Has → s.Reads Has [] →
      s.buffer.length + (carried rs).length ≤ s.buffer.limit → written rs ++ bad <+: chunks.flatMap Prod.snd →
      (s.feedEach chunks).2.buffer.contents = s.buffer.contents ++ carried rs := by
  intro hclaim
  have hlost := hclaim listening [firstRecord] firstRecord.record _
    [(0, firstRecord.record ++ firstRecord.record)] (Engine.inOrder rejects_firstRecord) reads_listening
    (by decide) (by decide)
  revert hlost
  decide +kernel

end SessionEngine.Session
