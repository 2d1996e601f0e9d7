import SessionEngine.Demo.Program

/-! The grammar of the command line. A command line is a sequence of groups, and is read as what its groups
say, one after the other (`read_groups`), or it breaks off at the first group that offends
(`exists_groups`, `read_offends`). What groups set the fields of the options to depends for each field only on
the last group that sets it (`get_apply`). -/

namespace SessionEngine.Demo

/-- What a flag that stands alone is written as. -/
def Switch.spelling : Switch → String
  | .server => "--server"
  | .client => "--client"
  | .tls => "--tls"

/-- What a flag with a value may be written as. -/
def Valued.spellings : Valued → List String
  | .host => ["--host", "-h"]
  | .port => ["--port", "-p"]
  | .timeout => ["--timeout", "-t"]
  | .cert => ["--cert"]
  | .key => ["--key"]
  | .keyPassword => ["--key-password"]

/-- The flags that end the program in good order. -/
def inquiries : List String := ["--help", "--version", "-v"]

/-- The values that a flag takes: any text, unless a number is asked for. -/
def Valued.Takes : Valued → String → Prop
  | .port, value => ∃ n < UInt16.size, Text.Decimal.Writes value n
  | .timeout, value => ∃ n < UInt64.size, Text.Decimal.Writes value n
  | _, _ => True

/-- Arguments that are read together: a flag alone, or a flag and the value behind it. -/
inductive Group where
  | switch (s : Switch)
  | valued (v : Valued) (flag : { word : String // word ∈ v.spellings })
    (value : { text : String // v.Takes text })

/-- The arguments of a group. -/
def Group.words : Group → List String
  | .switch s => [s.spelling]
  | .valued _ flag value => [flag.1, value.1]

/-- The fields of the options. -/
inductive Field where
  | role
  | host
  | port
  | timeout
  | cert
  | key
  | keyPassword
  | tls
  deriving DecidableEq, Repr, Inhabited

/-- What a field holds. -/
def Field.Value : Field → Type
  | .role => Role
  | .host => String
  | .port | .timeout => Nat
  | .cert | .key | .keyPassword => Option String
  | .tls => Bool

def Options.get (o : Options) : (f : Field) → f.Value
  | .role => o.role
  | .host => o.host
  | .port => o.port
  | .timeout => o.timeout
  | .cert => o.cert
  | .key => o.key
  | .keyPassword => o.keyPassword
  | .tls => o.tls

theorem Options.ext_get {o o' : Options} (h : ∀ f, o.get f = o'.get f) : o = o' := by
  cases o
  cases o'
  congr
  · exact h .role
  · exact h .host
  · exact h .port
  · exact h .timeout
  · exact h .cert
  · exact h .key
  · exact h .keyPassword
  · exact h .tls

namespace Group

/-- The field that a group sets. -/
def field : Group → Field
  | .switch .server | .switch .client => .role
  | .switch .tls => .tls
  | .valued .host .. => .host
  | .valued .port .. => .port
  | .valued .timeout .. => .timeout
  | .valued .cert .. => .cert
  | .valued .key .. => .key
  | .valued .keyPassword .. => .keyPassword

/-- What a group sets a field to, if it sets it. -/
def sets? : Group → (f : Field) → Option f.Value
  | .switch .server, .role => some Role.server
  | .switch .client, .role => some Role.client
  | .switch .tls, .tls => some true
  | .valued .host _ value, .host => some value.1
  | .valued .port _ value, .port => Text.Decimal.natural Options.maxPort value.1
  | .valued .timeout _ value, .timeout => Text.Decimal.natural Options.maxTimeout value.1
  | .valued .cert _ value, .cert => some (some value.1)
  | .valued .key _ value, .key => some (some value.1)
  | .valued .keyPassword _ value, .keyPassword => some (some value.1)
  | _, _ => none

theorem sets?_of_ne {g : Group} {f : Field} (h : g.field ≠ f) : g.sets? f = none := by
  cases g with
  | switch s => cases s <;> cases f <;> first | rfl | exact absurd rfl h
  | valued v flag value => cases v <;> cases f <;> first | rfl | exact absurd rfl h

/-- The options after a group. -/
def apply (o : Options) (g : Group) : Options where
  role := (g.sets? .role).getD o.role
  host := (g.sets? .host).getD o.host
  port := (g.sets? .port).getD o.port
  timeout := (g.sets? .timeout).getD o.timeout
  cert := (g.sets? .cert).getD o.cert
  key := (g.sets? .key).getD o.key
  keyPassword := (g.sets? .keyPassword).getD o.keyPassword
  tls := (g.sets? .tls).getD o.tls

theorem get_apply (o : Options) (g : Group) (f : Field) :
    (apply o g).get f = (g.sets? f).getD (o.get f) := by
  cases f <;> rfl

/-- Of the groups that set a field, the last one counts. -/
theorem get_foldl_apply (groups : List Group) (o : Options) (f : Field) :
    (groups.foldl apply o).get f = (groups.filterMap (·.sets? f)).getLast?.getD (o.get f) := by
  induction groups generalizing o with
  | nil => rfl
  | cons g groups ih =>
    rw [List.foldl_cons, ih, get_apply, List.filterMap_cons]
    cases g.sets? f with
    | none => rfl
    | some x => rw [List.getLast?_cons]; rfl

/-- Groups that set different fields may change places. -/
theorem foldl_apply_congr {groups groups' : List Group}
    (h : ∀ f, groups.filter (·.field = f) = groups'.filter (·.field = f)) (o : Options) :
    groups'.foldl apply o = groups.foldl apply o := by
  refine Options.ext_get fun f => ?_
  have hsets : ∀ groups : List Group,
      (groups.filter (·.field = f)).filterMap (·.sets? f) = groups.filterMap (·.sets? f) := by
    intro groups
    rw [List.filterMap_filter]
    congr 1
    funext g
    by_cases hf : g.field = f
    · simp [hf]
    · simp [hf, sets?_of_ne hf]
  rw [get_foldl_apply, get_foldl_apply, ← hsets groups, ← hsets groups', h f]

end Group

/-! ### Flags -/

theorem Flag.ofArgument_spelling (s : Switch) : Flag.ofArgument s.spelling = .switch s := by
  cases s <;> rfl

theorem Flag.ofArgument_of_mem {v : Valued} {word : String} (h : word ∈ v.spellings) :
    Flag.ofArgument word = .valued v := by
  cases v <;> simp only [Valued.spellings, List.mem_cons, List.not_mem_nil, or_false] at h
  all_goals first
    | subst h; rfl
    | rcases h with rfl | rfl <;> rfl

/-- An argument that is no flag. -/
def IsStray (word : String) : Prop :=
  (∀ s : Switch, word ≠ s.spelling) ∧ (∀ v : Valued, word ∉ v.spellings) ∧ word ∉ inquiries

theorem Flag.ofArgument_of_isStray {word : String} (h : IsStray word) :
    Flag.ofArgument word = .halt (.unknown word) := by
  obtain ⟨hswitch, hvalued, hinquiry⟩ := h
  unfold Flag.ofArgument
  split
  · exact absurd rfl (hswitch .server)
  · exact absurd rfl (hswitch .client)
  · exact absurd rfl (hswitch .tls)
  · exact absurd (by decide) (hvalued .host)
  · exact absurd (by decide) (hvalued .host)
  · exact absurd (by decide) (hvalued .port)
  · exact absurd (by decide) (hvalued .port)
  · exact absurd (by decide) (hvalued .timeout)
  · exact absurd (by decide) (hvalued .timeout)
  · exact absurd (by decide) (hvalued .cert)
  · exact absurd (by decide) (hvalued .key)
  · exact absurd (by decide) (hvalued .keyPassword)
  · exact absurd (by decide) hinquiry
  · exact absurd (by decide) hinquiry
  · exact absurd (by decide) hinquiry
  · rfl

/-- The first group that cannot be read begins with `word`, and `rest` comes behind it. A flag whose value
is missing is the last argument; of any other group the rest makes no difference. -/
inductive Offends : Halt → (word : String) → (rest : List String) → Prop
  | help (rest : List String) : Offends .help "--help" rest
  | version {word : String} (hword : word = "--version" ∨ word = "-v") (rest : List String) :
    Offends .version word rest
  | stray {word : String} (hword : IsStray word) (rest : List String) : Offends (.unknown word) word rest
  | missing {v : Valued} {word : String} (hword : word ∈ v.spellings) : Offends (.missingValue v) word []
  | port {word value : String} (hword : word ∈ Valued.port.spellings) (hvalue : ¬ Valued.port.Takes value)
    (rest : List String) : Offends .invalidPort word (value :: rest)
  | timeout {word value : String} (hword : word ∈ Valued.timeout.spellings)
    (hvalue : ¬ Valued.timeout.Takes value) (rest : List String) :
    Offends .invalidTimeout word (value :: rest)

/-! ### Reading -/

theorem exists_natural_iff {size : Nat} (hsize : 0 < size) {value : String} :
    (∃ n, Text.Decimal.natural (size - 1) value = some n) ↔ ∃ n < size, Text.Decimal.Writes value n := by
  refine exists_congr fun n => ?_
  rw [Text.Decimal.natural_eq_some_iff, Nat.le_sub_one_iff_lt hsize, and_comm]

theorem Valued.takes_port_iff {value : String} :
    Valued.port.Takes value ↔ ∃ n, Text.Decimal.natural Options.maxPort value = some n :=
  (exists_natural_iff (by decide)).symm

theorem Valued.takes_timeout_iff {value : String} :
    Valued.timeout.Takes value ↔ ∃ n, Text.Decimal.natural Options.maxTimeout value = some n :=
  (exists_natural_iff (by decide)).symm

/-- A group sets its own field and no other. -/
theorem Group.isSome_sets?_iff (g : Group) (f : Field) : (g.sets? f).isSome = true ↔ g.field = f := by
  constructor
  · intro hsome
    by_cases hfield : g.field = f
    · exact hfield
    · rw [sets?_of_ne hfield] at hsome
      cases hsome
  · rintro rfl
    rcases g with s | ⟨v, flag, value, hvalue⟩
    · cases s <;> rfl
    · cases v with
      | port =>
        obtain ⟨n, hn⟩ := Valued.takes_port_iff.mp hvalue
        exact Option.isSome_iff_exists.mpr ⟨n, hn⟩
      | timeout =>
        obtain ⟨n, hn⟩ := Valued.takes_timeout_iff.mp hvalue
        exact Option.isSome_iff_exists.mpr ⟨n, hn⟩
      | host | cert | key | keyPassword => rfl

namespace Options

theorem turn_eq_apply (o : Options) (s : Switch) : o.turn s = Group.apply o (.switch s) := by
  cases s <;> rfl

theorem assign_eq_apply (o : Options) (v : Valued) (flag : { word // word ∈ v.spellings })
    (value : { text // v.Takes text }) :
    o.assign v value.1 = .ok (Group.apply o (.valued v flag value)) := by
  cases v with
  | port =>
    obtain ⟨n, hn⟩ := Valued.takes_port_iff.mp value.2
    have happly : Group.apply o (.valued .port flag value) =
        { o with port := (Text.Decimal.natural maxPort value.1).getD o.port } := rfl
    rw [happly, assign, hn]
    rfl
  | timeout =>
    obtain ⟨n, hn⟩ := Valued.takes_timeout_iff.mp value.2
    have happly : Group.apply o (.valued .timeout flag value) =
        { o with timeout := (Text.Decimal.natural maxTimeout value.1).getD o.timeout } := rfl
    rw [happly, assign, hn]
    rfl
  | host | cert | key | keyPassword => rfl

/-- A group is read whole, and the rest with the options behind it. -/
theorem read_words (o : Options) (g : Group) (rest : List String) :
    o.read (g.words ++ rest) = (g.apply o).read rest := by
  cases g with
  | switch s =>
    rw [Group.words, List.singleton_append, read.eq_def]
    simp only [Flag.ofArgument_spelling, turn_eq_apply]
  | valued v flag value =>
    rw [Group.words, List.cons_append, List.singleton_append, read.eq_def]
    simp only [Flag.ofArgument_of_mem flag.2, assign_eq_apply o v flag value]

theorem read_groups (o : Options) (groups : List Group) (rest : List String) :
    o.read (groups.flatMap Group.words ++ rest) = (groups.foldl Group.apply o).read rest := by
  induction groups generalizing o with
  | nil => rfl
  | cons g groups ih => rw [List.flatMap_cons, List.append_assoc, read_words, ih, List.foldl_cons]

theorem read_offends {h : Halt} {word : String} {rest : List String} (hoffends : Offends h word rest)
    (o : Options) : o.read (word :: rest) = .error h := by
  cases hoffends with
  | help => rfl
  | version hword => rcases hword with rfl | rfl <;> rfl
  | stray hword =>
    rw [read.eq_def]
    simp only [Flag.ofArgument_of_isStray hword]
  | missing hword =>
    rw [read.eq_def]
    simp only [Flag.ofArgument_of_mem hword]
  | port hword hvalue =>
    rw [Valued.takes_port_iff, not_exists, ← Option.eq_none_iff_forall_ne_some] at hvalue
    rw [read.eq_def]
    simp only [Flag.ofArgument_of_mem hword, assign, hvalue]
  | timeout hword hvalue =>
    rw [Valued.takes_timeout_iff, not_exists, ← Option.eq_none_iff_forall_ne_some] at hvalue
    rw [read.eq_def]
    simp only [Flag.ofArgument_of_mem hword, assign, hvalue]

end Options

/-- The arguments are groups, and behind them nothing or a group that offends. -/
def Breaks (arguments : List String) : Prop :=
  ∃ (groups : List Group) (rest : List String), arguments = groups.flatMap Group.words ++ rest ∧
    (rest = [] ∨ ∃ h word more, rest = word :: more ∧ Offends h word more)

theorem Breaks.cons (g : Group) {rest : List String} (h : Breaks rest) : Breaks (g.words ++ rest) := by
  obtain ⟨groups, rest, rfl, hrest⟩ := h
  exact ⟨g :: groups, rest, by rw [List.flatMap_cons, List.append_assoc], hrest⟩

theorem Offends.breaks {h : Halt} {word : String} {rest : List String} (hoffends : Offends h word rest) :
    Breaks (word :: rest) :=
  ⟨[], word :: rest, rfl, .inr ⟨h, word, rest, rfl, hoffends⟩⟩

/-- A value that its flag does not take is no number where one is asked for. -/
theorem exists_offends_of_not_takes {v : Valued} {word value : String} (hword : word ∈ v.spellings)
    (hvalue : ¬ v.Takes value) (rest : List String) : ∃ h, Offends h word (value :: rest) := by
  cases v with
  | port => exact ⟨_, .port hword hvalue rest⟩
  | timeout => exact ⟨_, .timeout hword hvalue rest⟩
  | host | cert | key | keyPassword => exact absurd trivial hvalue

theorem exists_offends_of_mem_inquiries {word : String} (hword : word ∈ inquiries) (rest : List String) :
    ∃ h, Offends h word rest := by
  rcases List.mem_cons.mp hword with rfl | hversion
  · exact ⟨_, .help rest⟩
  · exact ⟨_, .version (by simpa using hversion) rest⟩

/-- Every command line is groups, up to its end or to the first one that offends. -/
theorem breaks (arguments : List String) : Breaks arguments := by
  induction hlength : arguments.length using Nat.strongRecOn generalizing arguments with
  | _ n ih =>
    rcases arguments with _ | ⟨word, rest⟩
    · exact ⟨[], [], rfl, .inl rfl⟩
    rw [List.length_cons] at hlength
    by_cases hswitch : ∃ s : Switch, word = s.spelling
    · obtain ⟨s, rfl⟩ := hswitch
      exact (ih rest.length (by omega) rest rfl).cons (.switch s)
    by_cases hvalued : ∃ v : Valued, word ∈ v.spellings
    · obtain ⟨v, hword⟩ := hvalued
      rcases rest with _ | ⟨value, rest⟩
      · exact (Offends.missing hword).breaks
      by_cases hvalue : v.Takes value
      · rw [List.length_cons] at hlength
        exact (ih rest.length (by omega) rest rfl).cons (.valued v ⟨word, hword⟩ ⟨value, hvalue⟩)
      · obtain ⟨h, hoffends⟩ := exists_offends_of_not_takes hword hvalue rest
        exact hoffends.breaks
    by_cases hinquiry : word ∈ inquiries
    · obtain ⟨h, hoffends⟩ := exists_offends_of_mem_inquiries hinquiry rest
      exact hoffends.breaks
    · have hstray : IsStray word := ⟨not_exists.mp hswitch, not_exists.mp hvalued, hinquiry⟩
      exact (Offends.stray hstray rest).breaks

/-- Only a flag that asks for help or for the version ends the program in good order. -/
theorem Offends.code {h : Halt} {word : String} {rest : List String} (hoffends : Offends h word rest) :
    h.outcome.code = if word ∈ inquiries then 0 else 1 := by
  have hvalued : ∀ {v : Valued}, word ∈ v.spellings → word ∉ inquiries := by
    intro v hword hinquiry
    have hflag := Flag.ofArgument_of_mem hword
    simp only [inquiries, List.mem_cons, List.not_mem_nil, or_false] at hinquiry
    rcases hinquiry with rfl | rfl | rfl <;> cases hflag
  cases hoffends with
  | help => rfl
  | version hword => rcases hword with rfl | rfl <;> rfl
  | stray hword => rw [if_neg hword.2.2]; rfl
  | missing hword => rw [if_neg (hvalued hword)]; rfl
  | port hword => rw [if_neg (hvalued hword)]; rfl
  | timeout hword => rw [if_neg (hvalued hword)]; rfl

theorem parse_groups (groups : List Group) :
    Options.parse (groups.flatMap Group.words) = .ok (groups.foldl Group.apply {}) := by
  have hread := Options.read_groups {} groups []
  rwa [List.append_nil, Options.read] at hread

theorem parse_offends (groups : List Group) {h : Halt} {word : String} {rest : List String}
    (hoffends : Offends h word rest) :
    Options.parse (groups.flatMap Group.words ++ word :: rest) = .error h := by
  rw [Options.parse, Options.read_groups, Options.read_offends hoffends]

/-- The command line is read from left to right in groups, and the options are there exactly if it is a
sequence of groups: each field holds what the last group that sets it says, or its default. So groups may
change places as long as those of each field stay in their order. Any other command line has a first group
that offends, which ends the program whatever comes behind it, in good order if it asks for help or for the
version. A group sets one field, and a number is digits, perhaps behind a plus, that write no more than the
limit. -/
theorem command_line_read :
    (∀ (arguments : List String) (o : Options), Options.parse arguments = .ok o ↔
      ∃ groups : List Group, arguments = groups.flatMap Group.words ∧
        ∀ f, o.get f = (groups.filterMap (·.sets? f)).getLast?.getD (({} : Options).get f)) ∧
    (∀ groups : List Group, ∃ o, Options.parse (groups.flatMap Group.words) = .ok o) ∧
    (∀ groups groups' : List Group,
      (∀ f, groups.filter (·.field = f) = groups'.filter (·.field = f)) →
        Options.parse (groups'.flatMap Group.words) = Options.parse (groups.flatMap Group.words)) ∧
    (∀ arguments : List String, (∀ groups : List Group, arguments ≠ groups.flatMap Group.words) →
      ∃ (groups : List Group) (h : Halt) (word : String) (rest : List String),
        arguments = groups.flatMap Group.words ++ word :: rest ∧ Offends h word rest) ∧
    (∀ (groups : List Group) (h : Halt) (word : String) (rest : List String), Offends h word rest →
      Options.parse (groups.flatMap Group.words ++ word :: rest) = .error h ∧
        (∀ m : Machine, run m (groups.flatMap Group.words ++ word :: rest) = .ended h.outcome) ∧
        h.outcome.code = if word ∈ inquiries then 0 else 1) ∧
    (∀ (g : Group) (f : Field), (g.sets? f).isSome = true ↔ g.field = f) ∧
    ∀ (limit : Nat) (text : String) (n : Nat),
      Text.Decimal.natural limit text = some n ↔ Text.Decimal.Writes text n ∧ n ≤ limit := by
  refine ⟨fun arguments o => ⟨fun hparse => ?_, ?_⟩, fun groups => ⟨_, parse_groups groups⟩,
    fun groups groups' hfields => ?_, fun arguments hother => ?_, fun groups h word rest hoffends => ?_,
    Group.isSome_sets?_iff, fun limit text n => Text.Decimal.natural_eq_some_iff⟩
  · obtain ⟨groups, rest, rfl, rfl | ⟨h, word, more, rfl, hoffends⟩⟩ := breaks arguments
    · rw [List.append_nil] at hparse ⊢
      rw [parse_groups] at hparse
      cases hparse
      exact ⟨groups, rfl, Group.get_foldl_apply groups {}⟩
    · rw [parse_offends groups hoffends] at hparse
      cases hparse
  · rintro ⟨groups, rfl, hfields⟩
    rw [parse_groups]
    refine congrArg Except.ok (Options.ext_get fun f => ?_)
    rw [Group.get_foldl_apply, hfields]
  · rw [parse_groups, parse_groups, Group.foldl_apply_congr hfields]
  · obtain ⟨groups, rest, rfl, rfl | ⟨h, word, more, rfl, hoffends⟩⟩ := breaks arguments
    · exact absurd (List.append_nil _) (hother groups)
    · exact ⟨groups, h, word, more, rfl, hoffends⟩
  · have hparse := parse_offends groups hoffends
    exact ⟨hparse, run_of_halt hparse, hoffends.code⟩

/-- Values that look like flags, a port that is set twice, and a version that is asked for where a flag may
stand. -/
theorem command_line_read_flags_as_values :
    let port (text : String) (h : Valued.port.Takes text) : Group :=
      .valued .port ⟨"-p", by decide⟩ ⟨text, h⟩
    let host : Group := .valued .host ⟨"--host", by decide⟩ ⟨"--port", trivial⟩
    ∃ (h7 : Valued.port.Takes "7") (h80 : Valued.port.Takes "+080"),
      (∀ f, [port "7" h7, host, port "+080" h80, .switch .client].filter (·.field = f) =
        [.switch .client, port "7" h7, port "+080" h80, host].filter (·.field = f)) ∧
      Options.parse ["-p", "7", "--host", "--port", "-p", "+080", "--client"] =
        .ok { role := .client, host := "--port", port := 80 } ∧
      Options.parse ["--client", "-p", "7", "-p", "+080", "--host", "--port"] =
        .ok { role := .client, host := "--port", port := 80 } ∧
      Offends .version "-v" ["--port"] ∧
      Options.parse ["--host", "--port", "-v", "--port"] = .error .version := by
  intro port host
  have h7 : Valued.port.Takes "7" := ⟨7, by decide, ['7'], by decide, by simp, .inl rfl, rfl⟩
  have h80 : Valued.port.Takes "+080" :=
    ⟨80, by decide, ['0', '8', '0'], by decide, by simp, .inr rfl, rfl⟩
  have hfields : ∀ f, [port "7" h7, host, port "+080" h80, .switch .client].filter (·.field = f) =
      [.switch .client, port "7" h7, port "+080" h80, host].filter (·.field = f) := by
    intro f
    cases f <;> rfl
  have hoffends : Offends .version "-v" ["--port"] := .version (.inr rfl) ["--port"]
  have hread : Options.parse ["-p", "7", "--host", "--port", "-p", "+080", "--client"] =
      .ok { role := .client, host := "--port", port := 80 } := rfl
  obtain ⟨-, -, hreorder, -, hhalt, -⟩ := command_line_read
  exact ⟨h7, h80, hfields, hread, (hreorder _ _ hfields).trans hread, hoffends,
    (hhalt [host] _ _ _ hoffends).1⟩

end SessionEngine.Demo
