import SnapcastSync.Lib.CText

/-! The picker of a discovered server. An option has the address behind the name, both in one text,
and the option that is chosen goes through a record of a fixed size. -/

namespace Control

open CText

structure ServerCandidate where
  name : Text
  host : Text
  port : UInt16

/-- Where to connect to; a port of zero leaves it to the configuration. -/
structure ServerTarget where
  host : Text
  port : UInt16
deriving DecidableEq

namespace ServerCandidate

def target (server : ServerCandidate) : ServerTarget :=
  { host := server.host
    port := server.port }

def address (server : ServerCandidate) : Text :=
  cStr server.host ++ ':' :: Nat.toDigits 10 server.port.toNat

/-- `"%s (%s:%u)"`. -/
def option (server : ServerCandidate) : Text :=
  cStr server.name ++ ' ' :: '(' :: (server.address ++ [')'])

/-- A server as a scan finds it: the texts are C strings, the host is an address, and the port is
the one of the record or the configured one. -/
structure Discovered (server : ServerCandidate) : Prop where
  name : nul ∉ server.name
  host : nul ∉ server.host
  opening : '(' ∉ server.host
  closing : ')' ∉ server.host
  port : server.port ≠ 0

end ServerCandidate

def automaticOption : Text := "Automatic".toList

/-- What stands between the parentheses, with its port where it ends in one. -/
def splitPort (body : Text) : ServerTarget :=
  match rfind ':' body with
  | some colon =>
      let parsed := strtol (cStr (body.drop (colon + 1)))
      if parsed.2 = [] ∧ 0 < parsed.1 ∧ parsed.1 ≤ 65535 then
        { host := body.take colon
          port := UInt16.ofNat parsed.1.toNat }
      else { host := body, port := 0 }
  | none => { host := body, port := 0 }

def optionBody (option : Text) : Option Text :=
  match rfind '(' option, rfind ')' option with
  | some opening, some closing =>
      if closing ≤ opening + 1 then none
      else some (substr option (opening + 1) (closing - opening - 1))
  | _, _ => none

/-- The port is written even where the host that is left before it is empty. -/
def parseServerOption (option : Text) (out : ServerTarget) : Bool × ServerTarget :=
  match optionBody option with
  | none => (false, out)
  | some body =>
      let target := splitPort body
      if target.host = [] then (false, { out with port := target.port }) else (true, target)

structure StoredOption where
  value : Text
  sized : value.length = 65

namespace StoredOption

def blank : StoredOption :=
  { value := List.replicate 65 nul
    sized := List.length_replicate }

/-- `strncpy` of all but the last byte into a record of zeros. -/
def copy (option : Text) : StoredOption :=
  { value := strncpy option 64 ++ [nul]
    sized := by rw [List.length_append, strncpy_length, List.length_singleton] }

/-- The text in a loaded record, whose last byte is set to zero first. -/
def text (stored : StoredOption) : Text := cStr (stored.value.take 64 ++ [nul])

def isBlank (stored : StoredOption) : Bool := decide (stored.value.head? = some nul)

theorem copy_text (option : Text) : (copy option).text = (cStr option).take 64 := by
  have kept : (strncpy option 64 ++ [nul]).take 64 = strncpy option 64 := by
    rw [List.take_append_of_le_length (le_of_eq (strncpy_length option 64).symm)]
    exact List.take_of_length_le (le_of_eq (strncpy_length option 64))
  rw [text, copy, kept, cStr_strncpy]

end StoredOption

/-- The select with its preference, and the selection that it pushes to the hub. -/
structure ServerSelect where
  restoreValue : Bool
  pref : Option StoredOption
  optionStore : List Text
  published : Option Text
  selectedHost : Text
  selectedPort : UInt16

namespace ServerSelect

def apply (sel : ServerSelect) (value : Text) : ServerSelect :=
  let parsed :=
    if value ≠ automaticOption then parseServerOption value { host := [], port := 0 }
    else (false, { host := [], port := 0 })
  { sel with
    selectedHost := parsed.2.host
    selectedPort := parsed.2.port
    published := some (if parsed.1 then value else automaticOption) }

def initialOption (restoreValue : Bool) (pref : Option StoredOption) : Text :=
  match restoreValue, pref with
  | true, some stored => if stored.isBlank then automaticOption else stored.text
  | _, _ => automaticOption

def setup (restoreValue : Bool) (pref : Option StoredOption) : ServerSelect :=
  let initial := initialOption restoreValue pref
  apply
    { restoreValue := restoreValue
      pref := pref
      optionStore := if initial ≠ automaticOption then [automaticOption, initial] else []
      published := none
      selectedHost := []
      selectedPort := 0 }
    initial

def control (sel : ServerSelect) (value : Text) : ServerSelect :=
  let applied := sel.apply value
  if sel.restoreValue then
    { applied with
      pref := some
        (if value ≠ automaticOption then StoredOption.copy value else StoredOption.blank) }
  else applied

/-- The current choice stays in the list even where its server is not found again. -/
def onServersDiscovered (sel : ServerSelect) (servers : List ServerCandidate) : ServerSelect :=
  let current := sel.published.getD automaticOption
  let options := automaticOption :: servers.map ServerCandidate.option
  { sel with
    optionStore :=
      if current ≠ automaticOption ∧ current ∉ options then options ++ [current] else options
    published := some current }

def restart (sel : ServerSelect) : ServerSelect := setup sel.restoreValue sel.pref

def Automatic (sel : ServerSelect) : Prop := sel.selectedHost = []

def Selects (sel : ServerSelect) (server : ServerCandidate) : Prop :=
  sel.selectedHost = server.host ∧ sel.selectedPort = server.port

end ServerSelect

def hostPort (body : Text) : Option ServerTarget :=
  let target := splitPort body
  if target.host = [] then none else some target

def optionTarget (option : Text) : Option ServerTarget := (optionBody option).bind hostPort

def Bracketed (text body : Text) : Prop :=
  body ≠ [] ∧ '(' ∉ body ∧
    ∃ before after, text = before ++ '(' :: (body ++ ')' :: after) ∧ '(' ∉ after ∧ ')' ∉ after

/-- The parenthesis of the address is among the bytes that are stored; or no other address stands
in parentheses in what is stored of the name. -/
def ServerCandidate.Kept (server : ServerCandidate) : Prop :=
  server.name.length ≤ 62 ∨ ∀ body, Bracketed ((server.name ++ [' ']).take 64) body →
    ∀ target ∈ hostPort body, target = server.target

theorem optionTarget_of_bracketed (text body : Text) (bracketed : Bracketed text body) :
    optionTarget text = hostPort body := by
  obtain ⟨filled, plain, before, after, rfl, openAfter, closeAfter⟩ := bracketed
  have opening : rfind '(' (before ++ '(' :: (body ++ ')' :: after)) = some before.length := by
    apply rfind_append_cons
    rw [List.mem_append, List.mem_cons, not_or, not_or]
    exact ⟨plain, by decide, openAfter⟩
  have closing : rfind ')' (before ++ '(' :: (body ++ ')' :: after)) =
      some (before.length + 1 + body.length) := by
    have split : before ++ '(' :: (body ++ ')' :: after) =
        (before ++ '(' :: body) ++ ')' :: after := by
      rw [List.append_assoc, List.cons_append]
    rw [split, rfind_append_cons ')' _ after closeAfter, List.length_append, List.length_cons]
    exact congrArg some (by omega)
  have length : 0 < body.length := List.length_pos_iff.mpr filled
  have between : substr (before ++ '(' :: (body ++ ')' :: after)) (before.length + 1)
      (before.length + 1 + body.length - before.length - 1) = body := by
    have split : before ++ '(' :: (body ++ ')' :: after) =
        (before ++ ['(']) ++ (body ++ ')' :: after) := by
      rw [List.append_assoc, List.singleton_append]
    have start : (before ++ ['(']).length = before.length + 1 := List.length_append
    rw [show before.length + 1 + body.length - before.length - 1 = body.length by omega, split,
      ← start, substr_append]
  rw [optionTarget, optionBody, opening, closing]
  dsimp only
  rw [if_neg (by omega), between, Option.bind_some]

theorem bracketed_of_parse (text : Text) (target : ServerTarget)
    (parsed : optionTarget text = some target) :
    ∃ body, Bracketed text body ∧ hostPort body = some target := by
  obtain ⟨body, between, named⟩ := Option.bind_eq_some_iff.mp parsed
  rw [optionBody] at between
  split at between
  case h_2 => cases between
  case h_1 opening closing foundOpen foundClose =>
    obtain ⟨before, tail, split, plain, start⟩ := rfind_split '(' text opening foundOpen
    obtain ⟨front, after, ends, closeAfter, stop⟩ := rfind_split ')' text closing foundClose
    split at between
    case isTrue => cases between
    case isFalse apart =>
      cases between
      have tailIs : text.drop (opening + 1) = tail := by
        rw [split, ← start, ← List.drop_drop, List.drop_left]
        rfl
      have afterIs : tail.drop (closing - opening - 1) = ')' :: after := by
        rw [← tailIs, List.drop_drop, show opening + 1 + (closing - opening - 1) = closing by omega,
          ends, ← stop, List.drop_left]
      have halves : tail = tail.take (closing - opening - 1) ++ ')' :: after := by
        rw [← afterIs, List.take_append_drop]
      rw [substr, tailIs] at named
      rw [halves, List.mem_append, List.mem_cons, not_or, not_or] at plain
      refine ⟨tail.take (closing - opening - 1), ⟨?_, plain.1, before, after, ?_, plain.2.2,
        closeAfter⟩, named⟩
      · intro empty
        rw [empty, List.nil_append] at halves
        have at_ : closing - opening - 1 = 0 ∨ tail = [] := List.take_eq_nil_iff.mp empty
        rcases at_ with none_ | none_
        · omega
        · rw [halves] at none_
          cases none_
      · rw [split]
        exact congrArg (fun rest => before ++ '(' :: rest) halves

theorem parse_of_unclosed (before tail : Text) (opening : '(' ∉ tail) (closing : ')' ∉ tail) :
    optionTarget (before ++ '(' :: tail) = none := by
  cases parsed : optionTarget (before ++ '(' :: tail) with
  | none => rfl
  | some target =>
      obtain ⟨body, ⟨_, plain, front, after, split, openAfter, _⟩, _⟩ :=
        bracketed_of_parse _ target parsed
      have absent : '(' ∉ body ++ ')' :: after := by
        rw [List.mem_append, List.mem_cons, not_or, not_or]
        exact ⟨plain, by decide, openAfter⟩
      have left := rfind_append_cons '(' before tail opening
      have right := rfind_append_cons '(' front _ absent
      rw [split, right] at left
      have tails := (List.append_inj split (Option.some.inj left).symm).2
      rw [(List.cons.inj tails).2] at closing
      exact absurd (List.mem_append_right body List.mem_cons_self) closing

namespace ServerSelect

theorem apply_target (sel : ServerSelect) (value : Text) :
    (∀ target ∈ optionTarget value, (sel.apply value).selectedHost = target.host ∧
        (sel.apply value).selectedPort = target.port) ∧
      (optionTarget value = none → (sel.apply value).selectedHost = []) := by
  by_cases automatic : value = automaticOption
  · subst automatic
    have nowhere : optionTarget automaticOption = none := by decide
    rw [nowhere]
    exact ⟨(fun target member => by cases member), fun _ => rfl⟩
  · rw [apply, if_pos automatic, parseServerOption, optionTarget]
    cases optionBody value with
    | none => exact ⟨(fun target member => by cases member), fun _ => rfl⟩
    | some body =>
        rw [Option.bind_some, hostPort]
        dsimp only
        split
        · exact ⟨(fun target member => by cases member), fun _ => rfl⟩
        · refine ⟨fun target member => ?_, fun absent => by cases absent⟩
          cases member
          exact ⟨rfl, rfl⟩

end ServerSelect

theorem hostPort_host (body : Text) (target : ServerTarget) (found : hostPort body = some target) :
    target.host ≠ [] := by
  rw [hostPort] at found
  split at found
  case isTrue => cases found
  case isFalse named =>
    cases found
    exact named

theorem parse_host (value : Text) (target : ServerTarget)
    (parsed : optionTarget value = some target) : target.host ≠ [] := by
  obtain ⟨body, _, found⟩ := bracketed_of_parse value target parsed
  exact hostPort_host body target found

theorem hostPort_address (server : ServerCandidate) (found : server.Discovered) :
    hostPort server.address = if server.host = [] then none else some server.target := by
  have positive : 0 < server.port.toNat := by
    rcases Nat.eq_zero_or_pos server.port.toNat with zero | positive
    · exact absurd (UInt16.toNat_inj.mp zero) found.port
    · exact positive
  have small : server.port.toNat < 65536 := server.port.toNat_lt
  have colon := notMem_toDigits server.port.toNat ':' rfl
  have ended := notMem_toDigits server.port.toNat nul rfl
  have fits : (server.port.toNat : Int) ≤ longMax := by
    rw [longMax]
    omega
  have behind : (server.host ++ ':' :: Nat.toDigits 10 server.port.toNat).drop
      (server.host.length + 1) = Nat.toDigits 10 server.port.toNat := by
    rw [← List.drop_drop, List.drop_left]
    rfl
  have target : splitPort server.address = server.target := by
    rw [splitPort, ServerCandidate.address, cStr_of_notMem _ found.host,
      rfind_append_cons ':' server.host _ colon]
    dsimp only
    rw [behind, cStr_of_notMem _ ended, strtol_toDigits _ fits, if_pos ⟨rfl, by omega, by omega⟩,
      List.take_left, Int.toNat_natCast, UInt16.ofNat_toNat]
    rfl
  rw [hostPort, target]
  rfl

theorem address_plain (server : ServerCandidate) (found : server.Discovered) :
    '(' ∉ server.address ∧ ')' ∉ server.address := by
  rw [ServerCandidate.address, cStr_of_notMem _ found.host, List.mem_append, List.mem_append,
    List.mem_cons, List.mem_cons, not_or, not_or, not_or, not_or]
  exact ⟨⟨found.opening, by decide, notMem_toDigits _ '(' rfl⟩, found.closing, by decide,
    notMem_toDigits _ ')' rfl⟩

theorem option_eq (server : ServerCandidate) (found : server.Discovered) :
    server.option = (server.name ++ [' ']) ++ '(' :: (server.address ++ [')']) := by
  rw [ServerCandidate.option, cStr_of_notMem _ found.name, List.append_assoc]
  rfl

theorem parse_option (server : ServerCandidate) (found : server.Discovered) :
    optionTarget server.option = if server.host = [] then none else some server.target := by
  rw [← hostPort_address server found]
  apply optionTarget_of_bracketed
  refine ⟨?_, (address_plain server found).1, server.name ++ [' '], [], option_eq server found,
    List.not_mem_nil, List.not_mem_nil⟩
  intro empty
  have colon : ':' ∈ server.address := List.mem_append_right _ List.mem_cons_self
  rw [empty] at colon
  cases colon

/-- Cut behind the opening parenthesis of the address, the option is the whole one or parsed to
nothing. -/
theorem parse_cut (server : ServerCandidate) (found : server.Discovered)
    (short : server.name.length ≤ 62) :
    optionTarget (server.option.take 64) = optionTarget server.option ∨
      optionTarget (server.option.take 64) = none := by
  rw [option_eq server found]
  have start : (server.name ++ [' ']).length = server.name.length + 1 := List.length_append
  obtain ⟨room, spared⟩ := Nat.exists_eq_add_of_le (show server.name.length + 2 ≤ 64 by omega)
  have cut : ((server.name ++ [' ']) ++ '(' :: (server.address ++ [')'])).take 64 =
      (server.name ++ [' ']) ++ '(' :: (server.address ++ [')']).take room := by
    rw [List.take_append, start, List.take_of_length_le (by omega),
      show 64 - (server.name.length + 1) = room + 1 by omega, List.take_succ_cons]
  rw [cut]
  by_cases whole : server.address.length + 1 ≤ room
  · left
    rw [List.take_of_length_le (by rw [List.length_append]; exact whole)]
  · right
    obtain ⟨opening, closing⟩ := address_plain server found
    rw [List.take_append_of_le_length (by omega)]
    exact parse_of_unclosed _ _ (fun member => opening (List.mem_of_mem_take member))
      fun member => closing (List.mem_of_mem_take member)

/-- A name that is too long leaves nothing of the address. -/
theorem option_cut_name (server : ServerCandidate) (found : server.Discovered)
    (long : 63 ≤ server.name.length) :
    server.option.take 64 = (server.name ++ [' ']).take 64 := by
  rw [option_eq server found]
  apply List.take_append_of_le_length
  rw [List.length_append, List.length_singleton]
  omega

theorem nul_notMem_option (server : ServerCandidate) (found : server.Discovered) :
    nul ∉ server.option := by
  rw [option_eq server found, ServerCandidate.address, cStr_of_notMem _ found.host]
  simp only [List.mem_append, List.mem_cons, List.not_mem_nil, or_false, not_or]
  exact ⟨⟨found.name, by decide⟩, by decide,
    ⟨found.host, by decide, notMem_toDigits _ nul rfl⟩, by decide⟩

theorem StoredOption.not_blank (stored : StoredOption) (filled : stored.text ≠ []) :
    stored.isBlank = false := by
  rw [isBlank, decide_eq_false_iff_not]
  intro first
  apply filled
  obtain ⟨rest, value⟩ := List.head?_eq_some_iff.mp first
  rw [text, value]
  exact List.takeWhile_cons_of_neg (by decide)

namespace ServerSelect

theorem initialOption_control (sel : ServerSelect) (server : ServerCandidate)
    (found : server.Discovered) (restores : sel.restoreValue = true) :
    initialOption true (sel.control server.option).pref = server.option.take 64 := by
  have named : server.option ≠ automaticOption := by
    intro same
    have opening : '(' ∈ server.option := by
      rw [option_eq server found]
      exact List.mem_append_right _ List.mem_cons_self
    rw [same] at opening
    exact absurd opening (by decide)
  have stored : (StoredOption.copy server.option).text = server.option.take 64 := by
    rw [StoredOption.copy_text, cStr_of_notMem _ (nul_notMem_option server found)]
  have filled : server.option.take 64 ≠ [] := by
    intro empty
    rcases List.take_eq_nil_iff.mp empty with none_ | none_
    · cases none_
    · rw [option_eq server found] at none_
      exact absurd none_ (List.append_ne_nil_of_right_ne_nil _ (List.cons_ne_nil _ _))
  have saved : (sel.control server.option).pref = some (StoredOption.copy server.option) := by
    rw [control, if_pos restores]
    exact congrArg some (if_pos named)
  have present := StoredOption.not_blank (StoredOption.copy server.option) (by rwa [stored])
  rw [saved, initialOption, present, if_neg Bool.false_ne_true, stored]

theorem control_restoreValue (sel : ServerSelect) (value : Text) :
    (sel.control value).restoreValue = sel.restoreValue := by
  rw [control]
  split
  · rfl
  · rfl

theorem setup_selects_iff (restoreValue : Bool) (pref : Option StoredOption)
    (server : ServerCandidate) :
    ((setup restoreValue pref).Selects server ∨ (setup restoreValue pref).Automatic) ↔
      ∀ target ∈ optionTarget (initialOption restoreValue pref), target = server.target := by
  obtain ⟨sel, applied⟩ : ∃ sel : ServerSelect,
      setup restoreValue pref = sel.apply (initialOption restoreValue pref) := ⟨_, rfl⟩
  obtain ⟨targeted, nowhere⟩ := sel.apply_target (initialOption restoreValue pref)
  rw [Selects, Automatic, applied]
  cases parsed : optionTarget (initialOption restoreValue pref) with
  | none => exact iff_of_true (Or.inr (nowhere parsed)) fun target member => by cases member
  | some target =>
      obtain ⟨host, port⟩ := targeted target parsed
      rw [host, port]
      constructor
      · rintro (⟨sameHost, samePort⟩ | automatic)
        · intro other member
          cases member
          exact congrArg₂ ServerTarget.mk sameHost samePort
        · exact absurd automatic (parse_host _ target parsed)
      · intro only
        left
        rw [only target rfl]
        exact ⟨rfl, rfl⟩

theorem restart_selects_iff (sel : ServerSelect) (server : ServerCandidate)
    (found : server.Discovered) :
    ((sel.control server.option).restart.Selects server ∨
        (sel.control server.option).restart.Automatic) ↔
      (sel.restoreValue = true → server.Kept) := by
  rw [restart, control_restoreValue, setup_selects_iff]
  cases restores : sel.restoreValue with
  | false =>
      refine iff_of_true ?_ fun impossible => by cases impossible
      intro target parsed
      cases parsed
  | true =>
      rw [sel.initialOption_control server found restores]
      rcases Nat.lt_or_ge server.name.length 63 with short | long
      · refine iff_of_true ?_ fun _ => Or.inl (by omega)
        intro target parsed
        rcases parse_cut server found (by omega) with whole | nothing
        · rw [whole, parse_option server found] at parsed
          split at parsed
          · cases parsed
          · cases parsed
            rfl
        · rw [nothing] at parsed
          cases parsed
      · rw [option_cut_name server found long]
        constructor
        · intro only _
          right
          intro body bracketed target named
          apply only target
          rw [optionTarget_of_bracketed _ body bracketed]
          exact named
        · intro kept target parsed
          rcases kept rfl with short | others
          · omega
          · obtain ⟨body, bracketed, named⟩ := bracketed_of_parse _ target parsed
            exact others body bracketed target named

theorem listed_of_discovered (sel : ServerSelect) (servers : List ServerCandidate) :
    (∀ server ∈ servers, server.option ∈ (sel.onServersDiscovered servers).optionStore) ∧
      ∀ current ∈ (sel.onServersDiscovered servers).published,
        current ∈ (sel.onServersDiscovered servers).optionStore := by
  have options : ∀ server ∈ servers,
      server.option ∈ automaticOption :: servers.map ServerCandidate.option :=
    fun server member => List.mem_cons_of_mem _ (List.mem_map_of_mem member)
  rw [onServersDiscovered]
  dsimp only
  split
  case isTrue =>
    refine ⟨fun server member => List.mem_append_left _ (options server member), ?_⟩
    intro current member
    cases member
    exact List.mem_append_right _ List.mem_cons_self
  case isFalse listed =>
    refine ⟨options, ?_⟩
    intro current member
    cases member
    by_cases automatic : sel.published.getD automaticOption = automaticOption
    · rw [automatic]
      exact List.mem_cons_self
    · exact not_not.mp fun absent => listed ⟨automatic, absent⟩

/-- A server that was found and chosen from the list is selected after a restart, or none is,
exactly where the choice is not stored or the server is kept. -/
theorem selection_kept_iff (sel : ServerSelect) (servers : List ServerCandidate)
    (server : ServerCandidate) (listed : server ∈ servers) (found : server.Discovered) :
    server.option ∈ (sel.onServersDiscovered servers).optionStore ∧
      ((((sel.onServersDiscovered servers).control server.option).restart.Selects server ∨
          ((sel.onServersDiscovered servers).control server.option).restart.Automatic) ↔
        (sel.restoreValue = true → server.Kept)) :=
  ⟨(sel.listed_of_discovered servers).1 server listed,
    (sel.onServersDiscovered servers).restart_selects_iff server found⟩

end ServerSelect

private def freshSelect : ServerSelect := ServerSelect.setup true none

private def serverNamed (name : String) : ServerCandidate :=
  { name := name.toList
    host := "192.168.1.7".toList
    port := 1704 }

theorem selection_kept_short :
    ((freshSelect.onServersDiscovered [serverNamed "Music (old)"]).control
        (serverNamed "Music (old)").option).restart.Selects (serverNamed "Music (old)") ∨
      ((freshSelect.onServersDiscovered [serverNamed "Music (old)"]).control
        (serverNamed "Music (old)").option).restart.Automatic :=
  (freshSelect.selection_kept_iff [serverNamed "Music (old)"] (serverNamed "Music (old)")
    List.mem_cons_self ⟨by decide, by decide, by decide, by decide, by decide⟩).2.mpr
    fun _ => Or.inl (by decide)

private def nameWithAddress : String :=
  "Music (192.168.1.5:1704) on the old computer in the living room"

theorem other_server_restored :
    ¬ ∀ (sel : ServerSelect) (servers : List ServerCandidate) (server : ServerCandidate),
      server ∈ servers → server.Discovered →
      ((sel.onServersDiscovered servers).control server.option).restart.Selects server ∨
        ((sel.onServersDiscovered servers).control server.option).restart.Automatic := by
  intro always
  rcases always freshSelect [serverNamed nameWithAddress] (serverNamed nameWithAddress)
    List.mem_cons_self ⟨by decide, by decide, by decide, by decide, by decide⟩ with
    same | automatic
  · exact absurd same.1 (by decide +kernel)
  · exact absurd automatic (by unfold ServerSelect.Automatic; decide +kernel)

end Control
