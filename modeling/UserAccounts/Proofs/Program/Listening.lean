/-
# Where the service listens

The address to listen on is read from the host, a colon and the port, so the host is an
IPv4 address, or an IPv6 address in brackets, and the port is the one that is asked for
(`listenAddress_eq_some_iff`). Without brackets an IPv6 address is no host: its colons are
not told apart from the one in front of the port (`listenAddress_of_v6`). So of the
addresses as they are written, those of IPv4 are listened on, and those of IPv6 in
brackets alone (`listens_on_hosts`).

Key definitions: `SpellsHost`, `HostGiven`.
Key theorems: `listenAddress_eq_some_iff`, `listenAddress_of_v6`, `listens_on_hosts`.
-/
import UserAccounts.Program.Startup
import UserAccounts.Proofs.Net.Address
import UserAccounts.Proofs.Settings.Whole
import UserAccounts.Proofs.Text.Digits

namespace UserAccounts.Program

open Net
open Text (decimal)

/-- The text is the host of an address to listen on: an IPv4 address, or an IPv6 address in
brackets, with a zone or without one. -/
inductive SpellsHost : List Char → Ip → Nat → Prop where
  | v4 {cs : List Char} {octets : List Nat} (h : Ip.ofText? cs = some (.v4 octets)) :
      SpellsHost cs (.v4 octets) 0
  | v6 {inner rest : List Char} {groups : List Nat} {zone : Nat}
      (h : readV6 inner = some (groups, rest)) (hzone : readZone rest = (zone, [])) :
      SpellsHost ('[' :: inner ++ [']']) (.v6 groups) zone

/-! ### The port behind the host -/

theorem listenAddress_eq (host : String) (port : UInt16) :
    listenAddress host port = Socket.ofText? (host.toList ++ ':' :: decimal port.toNat) := by
  have hport : (toString port).toList = decimal port.toNat := String.toList_ofList
  unfold listenAddress
  rw [String.toList_append, String.toList_append, hport, List.append_assoc]
  rfl

section

variable {port : Nat} {s : Socket}

theorem readUpTo_decimal {high : Nat} (h : port ≤ high) :
    readUpTo high (decimal port) = some (port, []) := by
  obtain ⟨digits, hrun, hne, -, -, hvalue⟩ :=
    digitRun_toDigits (show 1 < 10 by decide) (by decide) port
  unfold readUpTo decimal
  rw [hrun]
  simp [hne, hvalue, h]

theorem whole_readPort (h : port ≤ 65535) (rest : List Char) :
    whole (readPort (rest ++ ':' :: decimal port)) = if rest = [] then some port else none := by
  have hport := readUpTo_decimal h
  cases rest with
  | nil =>
    have hread : readPort (':' :: decimal port) = readUpTo 65535 (decimal port) := rfl
    rw [List.nil_append, hread, hport]
    rfl
  | cons c rest =>
    rw [if_neg (List.cons_ne_nil c rest)]
    by_cases hc : c = ':'
    · have hread : readPort (c :: rest ++ ':' :: decimal port) =
          readUpTo 65535 (rest ++ ':' :: decimal port) := by
        subst hc
        rfl
      rw [hread, (readUpTo_stopsAt (by decide)).ahead]
      cases readUpTo 65535 rest with
      | none => rfl
      | some found => simp [whole]
    · simp [readPort, readChar, hc, whole]

/-- What is made of a thing that was read does not change what was taken. -/
theorem whole_bind {α β : Type} {found : Option (α × List Char)}
    {next : α × List Char → Option (β × List Char)} {f : α → β}
    (h : ∀ a rest, next (a, rest) = some (f a, rest)) :
    whole (found >>= next) = (whole found).map f := by
  cases found with
  | none => rfl
  | some x =>
    obtain ⟨a, rest⟩ := x
    show whole (next (a, rest)) = _
    rw [h]
    cases rest with
    | nil => rfl
    | cons c rest => rfl

theorem whole_readSocketV4 (h : port ≤ 65535) (cs : List Char) :
    whole (readSocketV4 (cs ++ ':' :: decimal port)) =
      (whole (readV4 cs)).map fun octets => ⟨.v4 octets, port, 0⟩ := by
  have hread : readV4 (cs ++ ':' :: decimal port) = _ :=
    (readV4_stopsAt (by decide) (by decide)).ahead cs (decimal port)
  unfold readSocketV4
  rw [hread]
  cases readV4 cs with
  | none => rfl
  | some found =>
    obtain ⟨octets, rest⟩ := found
    show whole (readPort (rest ++ ':' :: decimal port) >>= _) = _
    rw [whole_bind (f := fun port => ⟨.v4 octets, port, 0⟩) fun _ _ => rfl, whole_readPort h]
    cases rest with
    | nil => rfl
    | cons c rest => rfl

theorem whole_eq_some_iff {α : Type} {found : Option (α × List Char)} {a : α} :
    whole found = some a ↔ found = some (a, []) := by
  obtain _ | ⟨b, _ | ⟨c, rest⟩⟩ := found <;> simp [whole]

theorem whole_readSocketV6_iff {cs : List Char} :
    whole (readSocketV6 cs) = some s ↔ ∃ behind groups rest more, cs = '[' :: behind ∧
      readV6 behind = some (groups, rest) ∧ (readZone rest).2 = ']' :: more ∧
      (whole (readPort more)).map (fun port => ⟨.v6 groups, port, (readZone rest).1⟩) = some s := by
  unfold readSocketV6
  constructor
  · intro hread
    obtain ⟨behind, hopen, hread⟩ := Option.bind_eq_some_iff.mp (whole_eq_some_iff.mp hread)
    obtain ⟨⟨groups, rest⟩, hv6, hread⟩ := Option.bind_eq_some_iff.mp hread
    obtain ⟨more, hclose, hread⟩ := Option.bind_eq_some_iff.mp hread
    refine ⟨behind, groups, rest, more, readChar_eq_some_iff.mp hopen, hv6,
      readChar_eq_some_iff.mp hclose, ?_⟩
    have hport := whole_eq_some_iff.mpr hread
    rwa [whole_bind (f := fun port => (⟨.v6 groups, port, (readZone rest).1⟩ : Socket))
      fun _ _ => rfl] at hport
  · rintro ⟨behind, groups, rest, more, rfl, hv6, hclose, hport⟩
    have hbracket : ∀ c more, readChar c (c :: more) = some more := fun c more => if_pos rfl
    rw [← hport]
    simp only [hbracket, hv6, hclose, Option.bind_eq_bind, Option.bind_some]
    exact whole_bind (f := fun port => (⟨.v6 groups, port, (readZone rest).1⟩ : Socket))
      fun _ _ => rfl

/-- What is read up to the closing bracket is read alone. -/
theorem readV6_before_bracket {behind rest more : List Char} {groups : List Nat}
    (hread : readV6 behind = some (groups, rest)) (hclose : (readZone rest).2 = ']' :: more) :
    ∃ inner left, behind = inner ++ ']' :: more ∧ readV6 inner = some (groups, left) ∧
      readZone left = ((readZone rest).1, []) := by
  have hv6 : StopsAt ']' readV6 := readV6_stopsAt (by decide) (by decide) (by decide)
  have hzone : ∀ cs, (readZone cs).2 <:+ cs ∧ ∀ more, readZone (cs ++ ']' :: more) =
      ((readZone cs).1, (readZone cs).2 ++ ']' :: more) :=
    readZone_stopsAt (by decide) (by decide)
  have hmem : ']' ∈ behind :=
    ((hzone rest).1.trans (hv6.suffix hread)).subset (by rw [hclose]; exact List.mem_cons_self)
  obtain ⟨inner, after, rfl, hinner⟩ := List.eq_append_cons_of_mem hmem
  rw [hv6.ahead] at hread
  obtain ⟨⟨groups, left⟩, hinnerread, hleft⟩ := Option.map_eq_some_iff.mp hread
  obtain ⟨rfl, rfl⟩ := Prod.mk.inj hleft
  rw [(hzone left).2] at hclose ⊢
  cases hzoned : (readZone left).2 with
  | nil =>
    rw [hzoned] at hclose
    obtain ⟨-, rfl⟩ := List.cons.inj hclose
    exact ⟨inner, left, rfl, hinnerread, by rw [← hzoned]⟩
  | cons c zoned =>
    -- the zone would end at a bracket inside, and there is none
    rw [hzoned] at hclose
    refine absurd ?_ hinner
    rw [← (List.cons.inj hclose).1]
    exact ((hzone left).1.trans (hv6.suffix hinnerread)).subset
      (by rw [hzoned]; exact List.mem_cons_self)

/-- The bracket stands in front of the port. -/
theorem bracket_before_port {cs inner more : List Char}
    (h : cs ++ ':' :: decimal port = inner ++ ']' :: more) :
    ∃ after, cs = inner ++ ']' :: after ∧ more = after ++ ':' :: decimal port := by
  rcases List.append_eq_append_iff.mp h with ⟨a, rfl, hport⟩ | ⟨a, rfl, hbracket⟩
  · have hmem : ']' ∈ ':' :: decimal port := by
      rw [hport]
      exact List.mem_append_right _ List.mem_cons_self
    rcases List.mem_cons.mp hmem with hcolon | hdigit
    · cases hcolon
    · exact absurd (Text.isDigit_of_mem_decimal hdigit) (by decide)
  · cases a with
    | nil => cases hbracket
    | cons c after =>
      obtain ⟨rfl, rfl⟩ := List.cons.inj hbracket
      exact ⟨after, rfl, rfl⟩

/-- With the port behind a text, the text is an address with its zone in brackets. -/
theorem whole_readSocketV6_port (h : port ≤ 65535) {cs : List Char} :
    whole (readSocketV6 (cs ++ ':' :: decimal port)) = some s ↔
      ∃ inner groups rest zone, cs = '[' :: inner ++ [']'] ∧ readV6 inner = some (groups, rest) ∧
        readZone rest = (zone, []) ∧ s = ⟨.v6 groups, port, zone⟩ := by
  rw [whole_readSocketV6_iff]
  constructor
  · rintro ⟨behind, groups, rest, more, hcs, hread, hclose, hport⟩
    obtain ⟨inner, left, rfl, hinner, hleft⟩ := readV6_before_bracket hread hclose
    have hsplit : cs ++ ':' :: decimal port = ('[' :: inner) ++ ']' :: more := hcs
    obtain ⟨after, rfl, rfl⟩ := bracket_before_port hsplit
    rw [whole_readPort h] at hport
    by_cases hafter : after = []
    · subst hafter
      exact ⟨inner, groups, left, _, rfl, hinner, hleft, (Option.some.inj hport).symm⟩
    · rw [if_neg hafter] at hport
      cases hport
  · rintro ⟨inner, groups, rest, zone, rfl, hread, hrest, rfl⟩
    have hv6 : StopsAt ']' readV6 := readV6_stopsAt (by decide) (by decide) (by decide)
    have hzone : ∀ more, readZone (rest ++ ']' :: more) =
        ((readZone rest).1, (readZone rest).2 ++ ']' :: more) :=
      (readZone_stopsAt (by decide) (by decide) rest).2
    have hport := whole_readPort h []
    refine ⟨inner ++ ']' :: ':' :: decimal port, groups, rest ++ ']' :: ':' :: decimal port,
      ':' :: decimal port, by simp, ?_, ?_, ?_⟩
    · rw [hv6.ahead, hread]
      rfl
    · rw [hzone, hrest]
      rfl
    · rw [List.nil_append] at hport
      rw [hport, hzone, hrest]
      rfl

end

/-! ### Hosts -/

theorem isOctets_iff {cs : List Char} {octets : List Nat} :
    Ip.ofText? cs = some (.v4 octets) ↔ whole (readV4 cs) = some octets := by
  unfold Ip.ofText? readIp
  rw [whole_eq_some_iff, whole_eq_some_iff]
  cases readV4 cs with
  | none => cases readV6 cs <;> simp
  | some found => simp [Prod.ext_iff]

theorem readV4_bracket (cs : List Char) : readV4 ('[' :: cs) = none :=
  (readV4_stopsAt (by decide) (by decide)).ahead [] cs

theorem ofText?_bracket (cs : List Char) : Ip.ofText? ('[' :: cs) = none := by
  have hv6 : readV6 ('[' :: cs) = none :=
    (readV6_stopsAt (by decide) (by decide) (by decide)).ahead [] cs
  unfold Ip.ofText? readIp
  rw [readV4_bracket, hv6]
  rfl

/-- **The address to listen on has the host and the port that are asked for.** -/
theorem listenAddress_eq_some_iff {host : String} {port : UInt16} {s : Socket} :
    listenAddress host port = some s ↔
      ∃ ip zone, SpellsHost host.toList ip zone ∧ s = ⟨ip, port.toNat, zone⟩ := by
  have hport : port.toNat ≤ 65535 := Nat.le_of_lt_succ port.toNat_lt
  rw [listenAddress_eq]
  unfold Socket.ofText?
  rw [whole_readSocketV4 hport, Option.or_eq_some_iff, whole_readSocketV6_port hport]
  constructor
  · rintro (h | ⟨-, inner, groups, rest, zone, hhost, hread, hzone, rfl⟩)
    · obtain ⟨octets, hoctets, rfl⟩ := Option.map_eq_some_iff.mp h
      exact ⟨_, _, .v4 (isOctets_iff.mpr hoctets), rfl⟩
    · rw [hhost]
      exact ⟨_, _, .v6 hread hzone, rfl⟩
  · rintro ⟨ip, zone, hhost, rfl⟩
    generalize host.toList = cs at hhost ⊢
    cases hhost with
    | v4 h =>
      rw [isOctets_iff.mp h]
      exact .inl rfl
    | @v6 inner rest groups zone h hzone =>
      rw [List.cons_append, readV4_bracket, ← List.cons_append]
      exact .inr ⟨rfl, inner, groups, rest, zone, rfl, h, hzone, rfl⟩

section

variable {cs : List Char} {port : UInt16} {octets groups : List Nat}

theorem listenAddress_of_v4 (h : Ip.ofText? cs = some (.v4 octets)) :
    listenAddress (String.ofList cs) port = some ⟨.v4 octets, port.toNat, 0⟩ := by
  refine listenAddress_eq_some_iff.mpr ⟨_, _, ?_, rfl⟩
  rw [String.toList_ofList]
  exact .v4 h

/-- An IPv6 address in brackets is listened on. -/
theorem listenAddress_of_bracketed (h : Ip.ofText? cs = some (.v6 groups)) :
    listenAddress (String.ofList ('[' :: cs ++ [']'])) port = some ⟨.v6 groups, port.toNat, 0⟩ := by
  have hread : readV6 cs = some (groups, []) := by
    unfold Ip.ofText? readIp at h
    rw [whole_eq_some_iff] at h
    cases hv4 : readV4 cs with
    | none => simpa [hv4] using h
    | some found => simp [hv4] at h
  refine listenAddress_eq_some_iff.mpr ⟨_, _, ?_, rfl⟩
  rw [String.toList_ofList]
  exact .v6 hread rfl

/-- **An IPv6 address without brackets is refused.** -/
theorem listenAddress_of_v6 (h : Ip.ofText? cs = some (.v6 groups)) :
    listenAddress (String.ofList cs) port = none := by
  refine Option.eq_none_iff_forall_ne_some.mpr fun s hs => ?_
  obtain ⟨ip, zone, hhost, -⟩ := listenAddress_eq_some_iff.mp hs
  rw [String.toList_ofList] at hhost
  cases hhost with
  | v4 hv4 =>
    rw [h] at hv4
    cases hv4
  | v6 hv6 hzone =>
    rw [List.cons_append, ofText?_bracket] at h
    cases h

end

/-! ### Starting -/

/-- The host is given for the run, or, if none is, it is set. -/
def HostGiven (lookup : Lookup) (host? : Option String) (host : String) : Prop :=
  host?.or (lookup "ACCOUNT_SERVICE_HOST") = some host

instance (lookup : Lookup) (host? : Option String) (host : String) :
    Decidable (HostGiven lookup host? host) :=
  inferInstanceAs (Decidable (_ = _))

theorem isBlank_of_mem_toText {ip : Ip} {c : Char} (h : c ∈ ip.toText) :
    Text.isBlank c = false := by
  have hdigit : ∀ d < 16, Text.isBlank (Nat.digitChar d) = false := by decide
  rcases mem_toText h with ⟨d, hd, rfl⟩ | rfl | rfl
  · exact hdigit d hd
  · decide
  · decide

theorem holds_of_no_blank {lookup : Lookup} {key : String} {cs : List Char}
    (h : lookup key = some (String.ofList cs)) (hne : cs ≠ [])
    (hblank : ∀ c ∈ cs, Text.isBlank c = false) : lookup.Holds key (String.ofList cs) := by
  refine ⟨fun hempty => hne (String.ofList_eq_empty_iff.mp hempty), _, h, ?_⟩
  rw [String.toList_ofList]
  exact ⟨⟨[], [], by simp, nofun, nofun⟩, fun c hc => hblank c (List.mem_of_head? hc),
    fun c hc => hblank c (List.mem_of_getLast? hc)⟩

theorem host_of_read {lookup : Lookup} {settings : Settings}
    (h : Settings.read lookup = .ok settings) :
    settings.service.host = (lookup.value? "ACCOUNT_SERVICE_HOST").getD "0.0.0.0" := by
  rcases Settings.setBy_or_firstFault lookup with ⟨found, hfound⟩ | ⟨fault, hfault⟩
  · obtain rfl := Except.ok.inj (hfound.read.symm.trans h)
    exact (Lookup.sets_text_iff.mp hfound.service.host).symm
  · rw [hfault.read] at h
    cases h

theorem host_eq {lookup : Lookup} {settings : Settings} {host? : Option String} {cs : List Char}
    (hread : Settings.read lookup = .ok settings)
    (hgiven : HostGiven lookup host? (String.ofList cs)) (hne : cs ≠ [])
    (hblank : ∀ c ∈ cs, Text.isBlank c = false) :
    host?.getD settings.service.host = String.ofList cs := by
  cases host? with
  | some host => exact Option.some.inj hgiven
  | none =>
    have hheld := Lookup.value?_eq_some_iff.mpr (holds_of_no_blank hgiven hne hblank)
    rw [Option.getD_none, host_of_read hread, hheld, Option.getD_some]

/-- A start that goes on at a socket. -/
def startsAt (service : ServiceSettings) (s : Socket) : List Event × Ending :=
  ([.listening service.serviceName s], .listening s)

section

variable {service : ServiceSettings} {host? : Option String} {port? : Option UInt16}

theorem listen_of_address {s : Socket}
    (h : listenAddress (host?.getD service.host) (port?.getD service.port) = some s) :
    listen service host? port? = startsAt service s := by
  unfold listen
  rw [h]
  rfl

theorem listen_of_none
    (h : listenAddress (host?.getD service.host) (port?.getD service.port) = none) :
    listen service host? port? = ([], .stopped .address) := by
  unfold listen
  rw [h]

/-- A start goes on at the host and the port that are asked for, or stops. -/
theorem listen_eq_listening_iff {s : Socket} :
    (listen service host? port?).2 = .listening s ↔
      ∃ ip zone, SpellsHost (host?.getD service.host).toList ip zone ∧
        s = ⟨ip, (port?.getD service.port).toNat, zone⟩ := by
  rw [← listenAddress_eq_some_iff]
  cases haddress : listenAddress (host?.getD service.host) (port?.getD service.port) with
  | none =>
    rw [listen_of_none haddress]
    exact iff_of_false nofun nofun
  | some found =>
    rw [listen_of_address haddress]
    simp [startsAt]

theorem listen_stopped_or_listening (service : ServiceSettings) (host? : Option String)
    (port? : Option UInt16) :
    (listen service host? port?).2 = .stopped .address ∨
      ∃ s, (listen service host? port?).2 = .listening s := by
  cases haddress : listenAddress (host?.getD service.host) (port?.getD service.port) with
  | none => exact .inl (congrArg Prod.snd (listen_of_none haddress))
  | some s => exact .inr ⟨s, congrArg Prod.snd (listen_of_address haddress)⟩

theorem serve_ending (service : ServiceSettings) (database : DatabaseSettings)
    (host? : Option String) (port? : Option UInt16) (storage : Storage) (reach : Database.Reach) :
    (∃ obstacle, (serve service database host? port? storage reach).ending = .stopped obstacle) ∨
      (serve service database host? port? storage reach).ending =
        (listen service host? port?).2 := by
  cases storage with
  | memory => exact .inr rfl
  | database =>
    unfold serve
    obtain ⟨events, result⟩ := openDatabase reach database.url
    cases result with
    | error fault => exact .inl ⟨_, rfl⟩
    | ok server => exact .inr rfl

end

theorem host_eq_toText {lookup : Lookup} {settings : Settings} {host? : Option String} {ip : Ip}
    (hread : Settings.read lookup = .ok settings) (hip : ip.WellFormed)
    (hgiven : HostGiven lookup host? (String.ofList ip.toText)) :
    host?.getD settings.service.host = String.ofList ip.toText := by
  have hne : ip.toText ≠ [] := by
    intro hempty
    have htext := Ip.ofText?_toText hip
    rw [hempty] at htext
    cases htext
  exact host_eq hread hgiven hne fun c => isBlank_of_mem_toText

theorem host_eq_bracketed {lookup : Lookup} {settings : Settings} {host? : Option String} {ip : Ip}
    (hread : Settings.read lookup = .ok settings)
    (hgiven : HostGiven lookup host? (String.ofList ('[' :: ip.toText ++ [']']))) :
    host?.getD settings.service.host = String.ofList ('[' :: ip.toText ++ [']']) := by
  refine host_eq hread hgiven (List.cons_ne_nil _ _) fun c hc => ?_
  simp only [List.cons_append, List.mem_cons, List.mem_append, List.not_mem_nil, or_false] at hc
  rcases hc with rfl | hc | rfl
  · decide
  · exact isBlank_of_mem_toText hc
  · decide

/-- A start stops, or goes on at the port that is asked for. -/
theorem serve_at_port (service : ServiceSettings) (database : DatabaseSettings)
    (host? : Option String) (port? : Option UInt16) (storage : Storage) (reach : Database.Reach) :
    (∃ obstacle, (serve service database host? port? storage reach).ending = .stopped obstacle) ∨
      ∃ s : Socket, s.port = (port?.getD service.port).toNat ∧
        (serve service database host? port? storage reach).ending = .listening s := by
  rcases serve_ending service database host? port? storage reach with hstopped | hending
  · exact .inl hstopped
  · rw [hending]
    rcases listen_stopped_or_listening service host? port? with hstopped | ⟨s, hs⟩
    · exact .inl ⟨_, hstopped⟩
    · obtain ⟨ip, zone, -, rfl⟩ := listen_eq_listening_iff.mp hs
      exact .inr ⟨_, rfl, hs⟩

/-- **Where the service listens.** As they are written, IPv4 addresses are listened on at the port
that is asked for, IPv6 addresses are in brackets and are refused without them. Whatever the host,
a start stops, or goes on at the port that is asked for; the address is one exactly if the host is
an IPv4 address or an IPv6 address in brackets. -/
theorem listens_on_hosts {lookup : Lookup} {settings : Settings}
    (hread : Settings.read lookup = .ok settings) (host? : Option String) (port? : Option UInt16)
    (storage : Storage) (reach : Database.Reach) :
    (∀ ip : Ip, ip.WellFormed → HostGiven lookup host? (String.ofList ip.toText) →
      listen settings.service host? port? = match ip with
        | .v4 _ => startsAt settings.service ⟨ip, (port?.getD settings.service.port).toNat, 0⟩
        | .v6 _ => ([], .stopped .address)) ∧
    (∀ groups : List Nat, (Ip.v6 groups).WellFormed →
      HostGiven lookup host? (String.ofList ('[' :: (Ip.v6 groups).toText ++ [']'])) →
      listen settings.service host? port? =
        startsAt settings.service ⟨.v6 groups, (port?.getD settings.service.port).toNat, 0⟩) ∧
    (∀ s : Socket, (listen settings.service host? port?).2 = .listening s ↔
      ∃ ip zone, SpellsHost (host?.getD settings.service.host).toList ip zone ∧
        s = ⟨ip, (port?.getD settings.service.port).toNat, zone⟩) ∧
    ((∃ obstacle, (serve settings.service settings.database host? port? storage reach).ending =
        .stopped obstacle) ∨
      ∃ s : Socket, s.port = (port?.getD settings.service.port).toNat ∧
        (serve settings.service settings.database host? port? storage reach).ending =
          .listening s) := by
  refine ⟨?_, ?_, fun _ => listen_eq_listening_iff, serve_at_port _ _ _ _ _ _⟩
  · intro ip hip hgiven
    have htext := Ip.ofText?_toText hip
    have hhost := host_eq_toText hread hip hgiven
    cases ip with
    | v4 octets =>
      apply listen_of_address
      rw [hhost]
      exact listenAddress_of_v4 htext
    | v6 groups =>
      apply listen_of_none
      rw [hhost]
      exact listenAddress_of_v6 htext
  · intro groups hip hgiven
    apply listen_of_address
    rw [host_eq_bracketed hread hgiven]
    exact listenAddress_of_bracketed (Ip.ofText?_toText hip)

/-- The host that is set is listened on; the one that is given goes before it. -/
theorem listens_on_loopback :
    let lookup : Lookup := fun key =>
      [("ACCOUNT_SERVICE_HOST", "127.0.0.1"), ("AUTH_JWT_SECRET", "s3cret")].lookup key
    let service : ServiceSettings := { serviceName := "account-service", host := "127.0.0.1" }
    Settings.read lookup = .ok ⟨service, {}, ⟨"s3cret", 60⟩⟩ ∧
      listen service none (some 80) = startsAt service ⟨.v4 [127, 0, 0, 1], 80, 0⟩ ∧
      listen service (some "::1") none = ([], .stopped .address) ∧
      listen service (some "[::1]") none =
        startsAt service ⟨.v6 [0, 0, 0, 0, 0, 0, 0, 1], 3000, 0⟩ := by
  intro lookup service
  have hread : Settings.read lookup = .ok ⟨service, {}, ⟨"s3cret", 60⟩⟩ := rfl
  have hv4 : (Ip.v4 [127, 0, 0, 1]).WellFormed := ⟨rfl, by decide⟩
  have hv6 : (Ip.v6 [0, 0, 0, 0, 0, 0, 0, 1]).WellFormed := ⟨rfl, by decide⟩
  have hset : HostGiven lookup none (String.ofList (Ip.v4 [127, 0, 0, 1]).toText) := by decide
  have hgiven : HostGiven lookup (some "::1")
      (String.ofList (Ip.v6 [0, 0, 0, 0, 0, 0, 0, 1]).toText) := by decide
  have hbrackets : HostGiven lookup (some "[::1]")
      (String.ofList ('[' :: (Ip.v6 [0, 0, 0, 0, 0, 0, 0, 1]).toText ++ [']'])) := by decide
  obtain ⟨hlistens, -⟩ := listens_on_hosts hread none (some 80) .memory {}
  obtain ⟨hrefused, -⟩ := listens_on_hosts hread (some "::1") none .memory {}
  obtain ⟨-, hlistens', -⟩ := listens_on_hosts hread (some "[::1]") none .memory {}
  exact ⟨hread, hlistens _ hv4 hset, hrefused _ hv6 hgiven, hlistens' _ hv6 hbrackets⟩

/-- The plain text of an IPv6 address is refused. -/
theorem plain_v6_refused :
    (Ip.v6 [0, 0, 0, 0, 0, 0, 0, 1]).WellFormed ∧
      String.ofList (Ip.v6 [0, 0, 0, 0, 0, 0, 0, 1]).toText = "::1" ∧
      listenAddress "::1" 0 = none ∧
      listen {} (some "::1") (some 0) = ([], .stopped .address) := by
  have haddress : listenAddress "::1" 0 = none := by decide
  exact ⟨⟨rfl, by decide⟩, by decide, haddress, listen_of_none haddress⟩

end UserAccounts.Program
