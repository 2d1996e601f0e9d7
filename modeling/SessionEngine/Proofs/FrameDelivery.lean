import SessionEngine.Proofs.Framing.Grammar
import SessionEngine.Proofs.Segmentation
import SessionEngine.Proofs.Session.Limit

/-! A message that comes in chunks to a session that has nothing buffered. All of it is buffered before it
is handed over, so what the splitter admits and what the buffer holds are two limits. By `length_le_run`
and `admits_of_fits` the chunks are taken in exactly if the whole message fits into the buffer; until then
nothing of it is handed over (`Cuts.of_part`). `frame_delivered_iff` says what this comes to for the frames
that the splitter admits by default and a buffer of the default size, and `frame_beyond_buffer` is a frame
between the two limits. -/

namespace SessionEngine

variable {ε : Type}

/-- A feed among the operations that take in chunks has whole chunks before it. -/
theorem Deed.ofChunks_split {chunks : List Bytes} {before after : List Deed} {chunk : Bytes}
    (h : before ++ .feed chunk :: after = ofChunks chunks) :
    ∃ fed later, chunks = fed ++ chunk :: later ∧ before = ofChunks fed := by
  induction chunks generalizing before with
  | nil => simp [ofChunks] at h
  | cons first chunks ih =>
    rcases before with _ | ⟨d, _ | ⟨d', before⟩⟩
    · obtain ⟨hfirst, -⟩ := List.cons.inj h
      cases hfirst
      exact ⟨[], chunks, rfl, rfl⟩
    · obtain ⟨-, hsecond⟩ := List.cons.inj h
      obtain ⟨hfeed, -⟩ := List.cons.inj hsecond
      cases hfeed
    · obtain ⟨rfl, hsecond⟩ := List.cons.inj h
      obtain ⟨rfl, hrest⟩ := List.cons.inj hsecond
      obtain ⟨fed, later, rfl, rfl⟩ := ih hrest
      exact ⟨first :: fed, later, rfl, rfl⟩

namespace Course

variable {h : Handler μ ε} {c : Course μ ε} {f : Framing} {fed data whole : Bytes} {chunks : List Bytes}
  {moves : List (Nat × Move)}

/-- As long as bytes of a message are still to come, what came of it stands in the buffer, and nothing is
handed over. -/
theorem Cuts.of_part (hc : c.Cuts f false fed) (hwhole : f.IsMessage whole) (hpart : fed ++ data <+: whole)
    (hmore : data ≠ []) :
    c.session.buffer.contents = fed ∧ c.fired.filterMap Event.message? = [] := by
  have hne : fed ≠ whole := by
    rintro rfl
    have hle := hpart.length_le
    rw [List.length_append] at hle
    exact hmore (List.eq_nil_of_length_eq_zero (by omega))
  have hwaits := hwhole.waits fed ((List.prefix_append fed data).trans hpart) hne
  have hcut : Cut.all f.find fed = ⟨[], none, fed⟩ := Cut.all_of_none hwaits
  exact ⟨hc.rest.trans (congrArg Cut.rest hcut), hc.messages.trans (congrArg Cut.parts hcut)⟩

/-- A message that has come whole is handed over, and nothing else. -/
theorem Cuts.of_whole (hc : c.Cuts f false whole) (hwhole : f.IsMessage whole) :
    c.fired.filterMap Event.message? = [whole] ∧ c.fired.filterMap Event.fault? = [] ∧
      c.session.buffer.contents = [] := by
  have hstep := hwhole.cut []
  rw [List.append_nil] at hstep
  have hcut : Cut.all f.find whole = ⟨[whole], none, []⟩ := by
    rw [Cut.all_of_some hstep, Cut.all_of_none rfl]
    rfl
  refine ⟨hc.messages.trans (congrArg Cut.parts hcut), ?_, hc.rest.trans (congrArg Cut.rest hcut)⟩
  by_contra hne
  exact hc.faults_ne_nil.mp hne (congrArg Cut.fault hcut)

end Course

variable [Tls.RecordEngine ε]

/-- Without a heartbeat a feed is refused for want of room only. -/
theorem Session.feed_error_iff {s : Session ε} (hplain : s.tls = none) (hbare : s.heartbeatSlot? = none)
    {now : Nat} {data : Bytes} {e : Error} : (s.feed now data).1 = .error e ↔
      data ≠ [] ∧ s.buffer.limit < s.buffer.length + data.length ∧
        e = .read (s.buffer.overflow (s.buffer.length + data.length)) := by
  rw [feed_of_bare hplain hbare]
  cases happend : s.buffer.append now data with
  | ok buffer =>
    refine ⟨fun h => (by cases h), fun ⟨hne, hover, _⟩ => ?_⟩
    rw [Buffer.append_eq_error_iff.mpr ⟨hne, hover, rfl⟩] at happend
    cases happend
  | error cause =>
    obtain ⟨hne, hover, rfl⟩ := Buffer.append_eq_error_iff.mp happend
    constructor
    · intro h
      exact ⟨hne, hover, (Except.error.inj h).symm⟩
    · rintro ⟨-, -, rfl⟩
      rfl

namespace Course

variable {h : Handler μ ε} {c : Course μ ε} {f : Framing} {fed data whole : Bytes} {chunks : List Bytes}
  {moves : List (Nat × Move)}

theorem Cuts.length_le_of_feed (hc : c.Cuts f false fed) (hwhole : f.IsMessage whole)
    (hbare : c.session.heartbeatSlot? = none) {now : Nat}
    (hfeed : (c.session.feed now data).1 = .ok ()) (hpart : fed ++ data <+: whole)
    (hfits : fed.length ≤ c.session.buffer.limit) : (fed ++ data).length ≤ c.session.buffer.limit := by
  by_cases hdata : data = []
  · rw [hdata, List.append_nil]
    exact hfits
  · obtain ⟨hcontents, -⟩ := hc.of_part hwhole hpart hdata
    by_contra hover
    have hroom : c.session.buffer.limit < c.session.buffer.length + data.length := by
      rw [Buffer.length, hcontents, ← List.length_append]
      omega
    rw [(Session.feed_error_iff hc.plain hbare).mpr ⟨hdata, hroom, rfl⟩] at hfeed
    cases hfeed

/-- What is taken in of a message has had room in the buffer. -/
theorem length_le_run (hc : c.Cuts f false []) (hwhole : f.IsMessage whole)
    (hmoves : moves.filterMap (·.2.deed?) = Deed.ofChunks chunks) (hadmits : c.Admits h moves)
    (hbare : (c.run h moves).session.heartbeatSlot? = none) (hpart : chunks.flatten <+: whole) :
    chunks.flatten.length ≤ c.session.buffer.limit := by
  have hrun := run_ofChunks (P := fun due fed c' => c'.session.buffer.limit = c.session.buffer.limit ∧
      (c'.session.heartbeatSlot? = none →
        c'.Cuts f due fed ∧ (fed <+: whole → fed.length ≤ c.session.buffer.limit)))
    ?_ ?_ ?_ ?_ ⟨rfl, fun _ => ⟨hc, fun _ => Nat.zero_le _⟩⟩ hmoves hadmits
  · exact (hrun.2 hbare).2 hpart
  · intro due fed c' hc'
    obtain ⟨hlimit, hcuts⟩ := hc'
    refine ⟨(c'.limit_run h [(0, .tell)]).trans hlimit, fun hend => ?_⟩
    have haside := c'.aside_tell h
    obtain ⟨hcuts, hfits⟩ := hcuts (haside.grows.bare hend)
    exact ⟨hcuts.aside haside, hfits⟩
  · intro due fed c' now hc'
    obtain ⟨hlimit, hcuts⟩ := hc'
    refine ⟨(c'.limit_run h [(now, .act)]).trans hlimit, fun hend => ?_⟩
    obtain ⟨hcuts, hfits⟩ := hcuts ((c'.grows_act now).bare hend)
    exact ⟨hcuts.aside (aside_act hcuts.plain now), hfits⟩
  · intro fed c' now data hc' hfeed
    obtain ⟨hlimit, hcuts⟩ := hc'
    refine ⟨(Session.limit_perform c'.session now (.feed data)).trans hlimit, fun hend => ?_⟩
    have hbare' := (Session.grows_perform c'.session now (.feed data)).bare hend
    obtain ⟨hcuts, hfits⟩ := hcuts hbare'
    refine ⟨hcuts.feed hbare' hfeed, fun hpart => ?_⟩
    have hbefore := hfits ((List.prefix_append fed data).trans hpart)
    rw [← hlimit] at hbefore ⊢
    exact hcuts.length_le_of_feed hwhole hbare' hfeed hpart hbefore
  · intro fed c' now hc'
    obtain ⟨hlimit, hcuts⟩ := hc'
    refine ⟨(Session.limit_perform c'.session now .dispatch).trans hlimit, fun hend => ?_⟩
    have hbare' := (Session.grows_perform c'.session now .dispatch).bare hend
    obtain ⟨hcuts, hfits⟩ := hcuts hbare'
    exact ⟨hcuts.dispatch hbare' now, hfits⟩

theorem run_of_refused {now : Nat} {e : Error}
    (hfeed : c.session.feed now data = (.error e, c.session)) (moves : List (Nat × Move)) :
    c.run h ((now, .deed (.feed data)) :: moves) = c.run h moves := by
  have hmove : c.move h now (.deed (.feed data)) = c := by
    simp only [move, perform, Session.perform, Session.fires, hfeed, List.append_nil]
  rw [run_cons, hmove]

theorem exists_refused (hrefused : ¬ c.Admits h moves) :
    ∃ before now data after e, moves = before ++ (now, .deed (.feed data)) :: after ∧
      c.Admits h before ∧ ((c.run h before).session.feed now data).1 = .error e := by
  induction moves generalizing c with
  | nil => exact absurd trivial hrefused
  | cons m moves ih =>
    obtain ⟨now, m⟩ := m
    by_cases hfirst : ∀ d ∈ m.deed?, c.session.Admits now d
    · have hrest : ¬ (c.move h now m).Admits h moves := fun hrest => hrefused ⟨hfirst, hrest⟩
      obtain ⟨before, now', data, after, e, rfl, hadmits, hfeed⟩ := ih hrest
      exact ⟨(now, m) :: before, now', data, after, e, rfl, ⟨hfirst, hadmits⟩, hfeed⟩
    · push Not at hfirst
      obtain ⟨d, hd, hnot⟩ := hfirst
      cases d with
      | feed data =>
        obtain rfl : m = .deed (.feed data) := by
          cases m with
          | deed d => cases hd; rfl
          | tell => cases hd
          | act => cases hd
        cases hfeed : (c.session.feed now data).1 with
        | ok => exact absurd hfeed hnot
        | error e => exact ⟨[], now, data, moves, e, rfl, trivial, hfeed⟩
      | _ => exact absurd trivial hnot

/-- The first feed that is refused is one of a chunk that the buffer has no room for beside the part of the
message that came before it. -/
theorem exists_refused_chunk (hc : c.Cuts f false []) (hwhole : f.IsMessage whole)
    (hstream : chunks.flatten <+: whole)
    (hmoves : moves.filterMap (·.2.deed?) = Deed.ofChunks chunks)
    (hbare : (c.run h moves).session.heartbeatSlot? = none) (hrefused : ¬ c.Admits h moves) :
    ∃ before now chunk after fed, moves = before ++ (now, .deed (.feed chunk)) :: after ∧
      fed ++ chunk <+: whole ∧ c.session.buffer.limit < (fed ++ chunk).length ∧
      (c.run h before).session.buffer.contents = fed ∧
      (c.run h before).fired.filterMap Event.message? = [] ∧
      ((c.run h before).session.feed now chunk).1 =
        .error (.read (c.session.buffer.overflow (fed ++ chunk).length)) := by
  obtain ⟨before, now, chunk, after, e, rfl, hadmits, hfeed⟩ := exists_refused hrefused
  rw [List.filterMap_append, List.filterMap_cons_some (by rfl)] at hmoves
  obtain ⟨fed, later, rfl, hbefore⟩ := Deed.ofChunks_split hmoves
  have hbare' : (c.run h before).session.heartbeatSlot? = none := by
    -- Nothing detaches a heartbeat later on.
    have hgrows := (c.run h before).grows_run h ((now, .deed (.feed chunk)) :: after)
    rw [run, List.foldl_append] at hbare
    exact hgrows.bare hbare
  have hcuts := cuts_run hc hbefore hadmits hbare'
  have hlimit := c.limit_run h before
  obtain ⟨hchunk, hover, rfl⟩ := (Session.feed_error_iff hcuts.plain hbare').mp hfeed
  rw [List.flatten_append, List.flatten_cons] at hstream
  have hpart : fed.flatten ++ chunk <+: whole := by
    rw [← List.append_assoc] at hstream
    exact (List.prefix_append _ _).trans hstream
  obtain ⟨hcontents, hmessages⟩ := hcuts.of_part hwhole hpart hchunk
  have htotal : (c.run h before).session.buffer.length + chunk.length = (fed.flatten ++ chunk).length := by
    rw [Buffer.length, hcontents, List.length_append]
  rw [htotal, hlimit] at hover
  refine ⟨before, now, chunk, after, fed.flatten, rfl, hpart, hover, hcontents, hmessages, ?_⟩
  rw [hfeed, htotal, Buffer.overflow, Buffer.overflow, hlimit]

theorem admits_of_fits (hc : c.Cuts f false []) (hwhole : f.IsMessage whole)
    (hstream : chunks.flatten <+: whole)
    (hmoves : moves.filterMap (·.2.deed?) = Deed.ofChunks chunks)
    (hbare : (c.run h moves).session.heartbeatSlot? = none)
    (hfits : whole.length ≤ c.session.buffer.limit) : c.Admits h moves := by
  by_contra hrefused
  obtain ⟨before, now, chunk, after, fed, -, hpart, hover, -⟩ :=
    exists_refused_chunk hc hwhole hstream hmoves hbare hrefused
  have hle := hpart.length_le
  omega

end Course

/-- Whether a default session delivers a frame that its splitter admits, however the frame is cut into
chunks: it does exactly if the buffer has room for the frame with its header. Then the frame is handed over
alone and nothing is left; else a feed is refused as too much, before anything was handed over. -/
theorem frame_delivered_iff (h : Handler μ ε) {s : Session ε} (hplain : s.tls = none)
    (hhandled : s.settings.handled = true) (hsplitter : s.splitter = .length Length.defaultLimit)
    (hlimit : s.buffer.limit = Buffer.defaultLimit) (hempty : s.buffer.contents = []) (memory : μ)
    {body : Bytes} (hbody : body.length ≤ Length.defaultLimit) {chunks : List Bytes}
    (hstream : chunks.flatten = Length.frame body) {moves : List (Nat × Move)}
    (hmoves : moves.filterMap (·.2.deed?) = Deed.ofChunks chunks)
    (hbare : ((Course.start s memory).run h moves).session.heartbeatSlot? = none) :
    let c := (Course.start s memory).run h moves
    ((Course.start s memory).Admits h moves ↔ 4 + body.length ≤ Buffer.defaultLimit) ∧
      (4 + body.length ≤ Buffer.defaultLimit →
        c.fired.filterMap Event.message? = [Length.frame body] ∧
        c.fired.filterMap Event.fault? = [] ∧ c.session.buffer.contents = [] ∧ c.Replays s.events) ∧
      (Buffer.defaultLimit < 4 + body.length →
        ∃ before now chunk after fed, moves = before ++ (now, .deed (.feed chunk)) :: after ∧
          fed ++ chunk <+: Length.frame body ∧ Buffer.defaultLimit < (fed ++ chunk).length ∧
          ((Course.start s memory).run h before).session.buffer.contents = fed ∧
          ((Course.start s memory).run h before).fired.filterMap Event.message? = [] ∧
          (((Course.start s memory).run h before).session.feed now chunk).1 =
            .error (.read (s.buffer.overflow (fed ++ chunk).length))) := by
  intro c
  have hstart : (Course.start s memory).Cuts (.length Length.defaultLimit) false [] :=
    Course.cuts_start (f := .length Length.defaultLimit) hplain hhandled hsplitter hempty memory
  have hword : body.length < UInt32.size := Nat.lt_of_le_of_lt hbody (by decide)
  have hwhole := Framing.isMessage_of_isFrame ⟨body, rfl, hbody, hword⟩
  have hpart : chunks.flatten <+: Length.frame body := hstream ▸ List.prefix_rfl
  have hlength : (Length.frame body).length = 4 + body.length := Length.length_frame body
  have hadmits : (Course.start s memory).Admits h moves ↔ 4 + body.length ≤ Buffer.defaultLimit := by
    rw [← hlength, ← hlimit]
    constructor
    · intro hadmits
      rw [← hstream]
      exact Course.length_le_run hstart hwhole hmoves hadmits hbare hpart
    · exact Course.admits_of_fits hstart hwhole hpart hmoves hbare
  refine ⟨hadmits, fun hfits => ?_, fun hover => ?_⟩
  · have hcuts := Course.cuts_run hstart hmoves (hadmits.mpr hfits) hbare
    rw [hstream] at hcuts
    obtain ⟨hmessages, hfaults, hrest⟩ := hcuts.of_whole hwhole
    exact ⟨hmessages, hfaults, hrest, Course.replays_run h s memory moves⟩
  · have hrefused : ¬ (Course.start s memory).Admits h moves := by
      rw [hadmits]
      omega
    rw [← hlimit]
    exact Course.exists_refused_chunk hstart hwhole hpart hmoves hbare hrefused

/-- A frame that comes in three chunks, of which one is empty, while the handler is told and acts. -/
theorem frame_delivered_small :
    let s : Session Empty :=
      .new 0 { Settings.server "localhost" 6380 with handled := true } (.length Length.defaultLimit)
    let moves : List (Nat × Move) := [.deed (.feed [0, 0]), .deed .dispatch, .deed (.feed []), .tell,
      .deed .dispatch, .deed (.feed [0, 2, 104, 105]), .deed .dispatch, .tell, .act].map (0, ·)
    let c := (Course.start s ()).run Demo.echo moves
    (s.tls = none ∧ s.settings.handled = true ∧ s.splitter = .length Length.defaultLimit ∧
        s.buffer.limit = Buffer.defaultLimit ∧ s.buffer.contents = [] ∧
        c.session.heartbeatSlot? = none) ∧
      (Course.start s ()).Admits Demo.echo moves ∧
      c.fired.filterMap Event.message? = [[0, 0, 0, 2, 104, 105]] ∧ c.session.buffer.contents = [] := by
  intro s moves c
  have hplain : s.tls = none := rfl
  have hhandled : s.settings.handled = true := rfl
  have hsplitter : s.splitter = .length Length.defaultLimit := rfl
  have hlimit : s.buffer.limit = Buffer.defaultLimit := rfl
  have hempty : s.buffer.contents = [] := rfl
  have hbare : c.session.heartbeatSlot? = none := by decide +kernel
  have hbody : [(104 : UInt8), 105].length ≤ Length.defaultLimit := by decide
  have hfits : 4 + [(104 : UInt8), 105].length ≤ Buffer.defaultLimit := by decide
  have hstream : [[0, 0], [], [0, 2, 104, 105]].flatten = Length.frame [104, 105] := rfl
  obtain ⟨hadmits, hdelivered, -⟩ := frame_delivered_iff Demo.echo hplain hhandled hsplitter hlimit hempty
    () hbody hstream (rfl : moves.filterMap _ = _) hbare
  obtain ⟨hmessages, -, hrest, -⟩ := hdelivered hfits
  exact ⟨⟨hplain, hhandled, hsplitter, hlimit, hempty, hbare⟩, hadmits.mpr hfits, hmessages, hrest⟩

/-- The splitter admits this frame, which is one byte longer than the buffer. -/
theorem frame_beyond_buffer :
    let s : Session Empty :=
      .new 0 { Settings.server "localhost" 6380 with handled := true } (.length Length.defaultLimit)
    let body : Bytes := List.replicate (8 * 1024 * 1024 - 3) 120
    let moves : List (Nat × Move) := [(0, .deed (.feed (Length.frame body))), (0, .deed .dispatch)]
    let c := (Course.start s ()).run Demo.echo moves
    (s.tls = none ∧ s.settings.handled = true ∧ s.splitter = .length Length.defaultLimit ∧
        s.buffer.limit = Buffer.defaultLimit ∧ s.buffer.contents = [] ∧
        c.session.heartbeatSlot? = none ∧ body.length ≤ Length.defaultLimit ∧
        moves.filterMap (·.2.deed?) = Deed.ofChunks [Length.frame body]) ∧
      (s.feed 0 (Length.frame body)).1 = .error (.read (s.buffer.overflow 8388609)) ∧
      c.fired.filterMap Event.message? = [] := by
  intro s body moves c
  have hbody : body.length = 8 * 1024 * 1024 - 3 := List.length_replicate
  have hlength : (Length.frame body).length = 8388609 := by
    rw [Length.length_frame, hbody]
    rfl
  have hfeed : s.feed 0 (Length.frame body) = (.error (.read (s.buffer.overflow 8388609)), s) := by
    have happend : s.buffer.append 0 (Length.frame body) = .error (s.buffer.overflow 8388609) := by
      refine Buffer.append_eq_error_iff.mpr ⟨fun hnil => ?_, ?_, ?_⟩
      · rw [hnil] at hlength
        exact absurd hlength (by decide)
      · rw [hlength]
        decide
      · rw [hlength, show s.buffer.length = 0 from rfl, Nat.zero_add]
    rw [Session.feed_of_bare rfl rfl, happend]
  have hc : c = (Course.start s ()).run Demo.echo [(0, .deed .dispatch)] :=
    Course.run_of_refused (c := Course.start s ()) hfeed [(0, .deed .dispatch)]
  refine ⟨⟨rfl, rfl, rfl, rfl, rfl, ?_, ?_, rfl⟩, congrArg Prod.fst hfeed, ?_⟩
  · rw [hc]
    decide +kernel
  · rw [hbody]
    decide
  · rw [hc]
    decide +kernel

end SessionEngine
