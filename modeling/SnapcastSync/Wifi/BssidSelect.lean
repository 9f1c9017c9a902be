import SnapcastSync.Lib.Run
import Mathlib.Data.List.Infix

/-! The preferred access point. The pin is a BSSID in the STA config, which excludes every other
access point; a timer that runs while it is installed and the link is down is what releases it. -/

namespace Wifi

abbrev Bssid := Vector UInt8 6

abbrev Ssid := { name : String // name ≠ "" }

def pinFallbackMs : UInt32 := 20000
def automaticOption : String := "Automatic"

/-- What the pin reads and writes of the wifi component: the selected STA config, with an empty
name before the first connect, and the link. -/
structure WifiComponent where
  staSsid : String
  staBssid : Option Bssid
  connected : Bool
  bssid : Bssid
deriving DecidableEq

structure WifiBssidSelect where
  desired : String
  restoreValue : Bool
  stored : Option String
  pinnedSinceMs : UInt32
  pinReleased : Bool
  wifi : WifiComponent
deriving DecidableEq

/-- What goes through the 18 bytes of a `StoredOption`. -/
def storedOption (value : String) : String := String.ofList (value.toList.take 17)

inductive PinEvent where
  | control (value : String) (nowMs : UInt32) (dropped : Bool)
  | connect (ssid : Ssid) (bssid : Bssid) (nowMs : UInt32) (dropped : Bool)
  | disconnect (nowMs : UInt32) (dropped : Bool)
  | loop (nowMs : UInt32)

def PinEvent.isIdle : PinEvent → Bool
  | .control _ _ _ => false
  | .connect _ _ _ _ => false
  | .disconnect _ _ => true
  | .loop _ => true

namespace WifiBssidSelect

/- `parse_bssid`; that one string is always parsed to one address is all that matters of it. -/
variable (parseBssid : String → Option Bssid)

def setup (restoreValue : Bool) (stored : Option String) (staSsid : String) (bssid : Bssid) :
    WifiBssidSelect :=
  let loaded := if restoreValue then (stored.map storedOption).getD "" else ""
  { desired := if loaded ≠ "" ∧ (parseBssid loaded).isSome then loaded else ""
    restoreValue := restoreValue
    stored := stored
    pinnedSinceMs := 0
    pinReleased := false
    wifi :=
      { staSsid := staSsid
        staBssid := none
        connected := false
        bssid := bssid } }

def setStaBssid (sel : WifiBssidSelect) (staBssid : Option Bssid) : WifiBssidSelect :=
  { sel with wifi := { sel.wifi with staBssid := staBssid } }

/-- `retry_connect`, after which the link may be down at once or only with the event. -/
def retryConnect (sel : WifiBssidSelect) (dropped : Bool) : WifiBssidSelect :=
  { sel with wifi := { sel.wifi with connected := sel.wifi.connected && !dropped } }

def target (sel : WifiBssidSelect) : Option Bssid :=
  if sel.desired ≠ "" ∧ sel.pinReleased = false then parseBssid sel.desired else none

def applyLock (sel : WifiBssidSelect) (nowMs : UInt32) (dropped : Bool) : WifiBssidSelect :=
  if sel.wifi.staSsid = "" then sel
  else
    match sel.target parseBssid with
    | some target =>
        let installed := sel.setStaBssid (some target)
        let tried :=
          if installed.wifi.connected = true ∧ installed.wifi.bssid ≠ target then
            installed.retryConnect dropped
          else installed
        if tried.wifi.connected = false ∧ tried.pinnedSinceMs = 0 then
          { tried with pinnedSinceMs := nowMs }
        else tried
    | none => sel.setStaBssid none

def releasePin (sel : WifiBssidSelect) : WifiBssidSelect :=
  if sel.wifi.staSsid = "" then sel
  else
    { sel.setStaBssid none with
      pinReleased := true
      pinnedSinceMs := 0 }

def loop (sel : WifiBssidSelect) (nowMs : UInt32) : WifiBssidSelect :=
  if sel.desired = "" ∨ sel.pinReleased = true ∨ sel.pinnedSinceMs = 0 then sel
  else if sel.wifi.connected = true then { sel with pinnedSinceMs := 0 }
  else if pinFallbackMs ≤ nowMs - sel.pinnedSinceMs then sel.releasePin
  else sel

def choose (sel : WifiBssidSelect) (value : String) : WifiBssidSelect :=
  let desired := if value ≠ automaticOption ∧ (parseBssid value).isSome then value else ""
  { sel with
    desired := desired
    pinReleased := false
    pinnedSinceMs := 0
    stored := if sel.restoreValue then some (storedOption desired) else sel.stored }

def control (sel : WifiBssidSelect) (value : String) (nowMs : UInt32) (dropped : Bool) :
    WifiBssidSelect :=
  (sel.choose parseBssid value).applyLock parseBssid nowMs dropped

def rearm (sel : WifiBssidSelect) : WifiBssidSelect :=
  { sel with
    pinReleased := false
    pinnedSinceMs := 0 }

def onWifiConnectState (sel : WifiBssidSelect) (ssid : String) (nowMs : UInt32)
    (dropped : Bool) : WifiBssidSelect :=
  if ssid = "" then
    if sel.pinReleased then sel.rearm.applyLock parseBssid nowMs dropped else sel
  else { sel with pinnedSinceMs := 0 }.applyLock parseBssid nowMs dropped

def linkUp (sel : WifiBssidSelect) (ssid : String) (bssid : Bssid) : WifiBssidSelect :=
  { sel with
    wifi :=
      { sel.wifi with
        staSsid := ssid
        connected := true
        bssid := bssid } }

def linkDown (sel : WifiBssidSelect) : WifiBssidSelect :=
  { sel with wifi := { sel.wifi with connected := false } }

def step (sel : WifiBssidSelect) : PinEvent → WifiBssidSelect
  | .control value nowMs dropped => sel.control parseBssid value nowMs dropped
  | .connect ssid bssid nowMs dropped =>
      (sel.linkUp ssid bssid).onWifiConnectState parseBssid ssid nowMs dropped
  | .disconnect nowMs dropped => sel.linkDown.onWifiConnectState parseBssid "" nowMs dropped
  | .loop nowMs => sel.loop nowMs

def Waiting (sel : WifiBssidSelect) : Prop :=
  sel.pinnedSinceMs ≠ 0 ∧ sel.pinReleased = false ∧ sel.desired ≠ ""

def Pinned (sel : WifiBssidSelect) : Prop :=
  sel.wifi.staBssid.isSome = true ∧ sel.wifi.connected = false

/-- Installed and down, the constraint has the timer running. -/
def Guarded (sel : WifiBssidSelect) : Prop := sel.Pinned → sel.Waiting

def Rescued (sel : WifiBssidSelect) : Prop :=
  sel.Pinned → ∀ events : List PinEvent, (∀ event ∈ events, event.isIdle = true) →
    (∃ nowMs, .loop nowMs ∈ events ∧ pinFallbackMs ≤ nowMs - sel.pinnedSinceMs) →
    ∃ early, early <+: events ∧ (early.foldl (step parseBssid) sel).wifi.staBssid = none

/-- The pin does not strand the device. -/
def Free (sel : WifiBssidSelect) : Prop := sel.Guarded ∧ sel.Rescued parseBssid

def locksDown (sel : WifiBssidSelect) (dropped : Bool) : Prop :=
  sel.wifi.staSsid ≠ "" ∧ ∃ target, sel.target parseBssid = some target ∧
    (sel.wifi.connected = false ∨ sel.wifi.bssid ≠ target ∧ dropped = true)

/-- No link drops from the preferred access point while the constraint is installed without the
timer running, and the clock does not read zero when the timer is started. -/
def Covered (sel : WifiBssidSelect) : PinEvent → Prop
  | .control value nowMs dropped =>
      (sel.choose parseBssid value).locksDown parseBssid dropped → nowMs ≠ 0
  | .connect ssid bssid nowMs dropped =>
      (sel.linkUp ssid bssid).locksDown parseBssid dropped → nowMs ≠ 0
  | .disconnect nowMs dropped =>
      if sel.pinReleased then sel.linkDown.rearm.locksDown parseBssid dropped → nowMs ≠ 0
      else sel.wifi.staBssid.isSome = true → sel.pinnedSinceMs ≠ 0
  | .loop _ => True

def Sound (sel : WifiBssidSelect) : Prop :=
  sel.wifi.staBssid.isSome = true →
    sel.wifi.staSsid ≠ "" ∧ sel.pinReleased = false ∧ sel.desired ≠ ""

theorem storedOption_short (value : String) (short : value.toList.length ≤ 17) :
    storedOption value = value := by
  rw [storedOption, List.take_of_length_le short, String.ofList_toList]

theorem applyLock_stored (sel : WifiBssidSelect) (nowMs : UInt32) (dropped : Bool) :
    (sel.applyLock parseBssid nowMs dropped).stored = sel.stored := by
  rw [applyLock]
  split
  · rfl
  · split
    · dsimp only
      split <;> split <;> rfl
    · rfl

/-- A choice that fits the stored option is the preference after a restart. -/
theorem setup_of_control (sel : WifiBssidSelect) (value : String) (nowMs : UInt32)
    (dropped : Bool) (staSsid : String) (bssid : Bssid) (restores : sel.restoreValue = true)
    (short : value.toList.length ≤ 17) :
    (setup parseBssid true (sel.control parseBssid value nowMs dropped).stored staSsid
      bssid).desired = (sel.choose parseBssid value).desired := by
  rw [control, applyLock_stored]
  by_cases wanted : value ≠ automaticOption ∧ (parseBssid value).isSome = true
  · by_cases empty : value = ""
    · simp [setup, choose, restores, storedOption, empty]
    · simp [setup, choose, restores, wanted, storedOption_short value short, empty]
  · simp [setup, choose, restores, wanted, storedOption]

inductive Locked (before after : WifiBssidSelect) (nowMs : UInt32) (dropped : Bool) : Prop where
  | unnamed (empty : before.wifi.staSsid = "") (same : after = before)
  | cleared (free : before.target parseBssid = none) (same : after = before.setStaBssid none)
  | held (target : Bssid) (wanted : before.target parseBssid = some target)
      (named : before.wifi.staSsid ≠ "") (up : before.wifi.connected = true)
      (stays : ¬ (before.wifi.bssid ≠ target ∧ dropped = true))
      (same : after = before.setStaBssid (some target))
  | waits (target : Bssid) (wanted : before.target parseBssid = some target)
      (down : before.locksDown parseBssid dropped)
      (same : after = { (before.setStaBssid (some target)).linkDown with
        pinnedSinceMs := if before.pinnedSinceMs = 0 then nowMs else before.pinnedSinceMs })

theorem target_some (sel : WifiBssidSelect) (target : Bssid)
    (wanted : sel.target parseBssid = some target) :
    sel.desired ≠ "" ∧ sel.pinReleased = false := by
  rw [WifiBssidSelect.target] at wanted
  split at wanted
  · assumption
  · cases wanted

theorem applyLock_cases (sel : WifiBssidSelect) (nowMs : UInt32) (dropped : Bool) :
    Locked parseBssid sel (sel.applyLock parseBssid nowMs dropped) nowMs dropped := by
  rw [applyLock]
  by_cases empty : sel.wifi.staSsid = ""
  · rw [if_pos empty]
    exact .unnamed empty rfl
  · rw [if_neg empty]
    cases wanted : sel.target parseBssid with
    | none => exact .cleared wanted rfl
    | some target =>
        cases link : sel.wifi.connected with
        | false =>
            apply Locked.waits target wanted ⟨empty, target, wanted, Or.inl link⟩
            by_cases idle : sel.pinnedSinceMs = 0
            · simp [setStaBssid, linkDown, link, idle]
            · simp [setStaBssid, linkDown, link, idle]
        | true =>
            by_cases leaves : sel.wifi.bssid ≠ target ∧ dropped = true
            · apply Locked.waits target wanted ⟨empty, target, wanted, Or.inr leaves⟩
              by_cases idle : sel.pinnedSinceMs = 0
              · simp [setStaBssid, retryConnect, linkDown, link, idle, leaves]
              · simp [setStaBssid, retryConnect, linkDown, link, idle, leaves]
            · apply Locked.held target wanted empty link leaves
              by_cases right : sel.wifi.bssid = target
              · simp [setStaBssid, link, right]
              · have kept : dropped = false := by
                  cases dropped with
                  | false => rfl
                  | true => exact absurd ⟨right, rfl⟩ leaves
                simp [setStaBssid, retryConnect, link, right, kept]

theorem applyLock_sound (sel : WifiBssidSelect) (nowMs : UInt32) (dropped : Bool)
    (named : sel.wifi.staBssid.isSome = true → sel.wifi.staSsid ≠ "") :
    (sel.applyLock parseBssid nowMs dropped).Sound := by
  cases applyLock_cases parseBssid sel nowMs dropped with
  | unnamed empty same =>
      rw [same]
      intro installed
      exact absurd empty (named installed)
  | cleared free same =>
      rw [same]
      intro installed
      cases installed
  | held target wanted named up stays same =>
      rw [same]
      intro _
      obtain ⟨preferred, kept⟩ := target_some parseBssid sel target wanted
      exact ⟨named, kept, preferred⟩
  | waits target wanted down same =>
      rw [same]
      intro _
      obtain ⟨preferred, kept⟩ := target_some parseBssid sel target wanted
      exact ⟨down.1, kept, preferred⟩

/-- With the timer not running before, the lock leaves it running where it must, unless it starts
it with a zero. -/
theorem applyLock_guarded (sel : WifiBssidSelect) (nowMs : UInt32) (dropped : Bool)
    (named : sel.wifi.staBssid.isSome = true → sel.wifi.staSsid ≠ "")
    (idle : sel.pinnedSinceMs = 0) :
    (sel.applyLock parseBssid nowMs dropped).Guarded ↔
      (sel.locksDown parseBssid dropped → nowMs ≠ 0) := by
  cases applyLock_cases parseBssid sel nowMs dropped with
  | unnamed empty same =>
      rw [same]
      constructor
      · intro _ down
        exact absurd empty down.1
      · intro _ pinned
        exact absurd empty (named pinned.1)
  | cleared free same =>
      rw [same]
      constructor
      · rintro _ ⟨_, target, wanted, _⟩
        rw [free] at wanted
        cases wanted
      · intro _ pinned
        cases pinned.1
  | held target wanted named up stays same =>
      rw [same]
      constructor
      · rintro _ ⟨_, other, otherWanted, down⟩
        rw [wanted] at otherWanted
        rw [← Option.some.inj otherWanted, up] at down
        rcases down with off | leaves
        · cases off
        · exact absurd leaves stays
      · intro _ pinned
        rw [setStaBssid, Pinned, up] at pinned
        cases pinned.2
  | waits target wanted down same =>
      obtain ⟨preferred, kept⟩ := target_some parseBssid sel target wanted
      rw [same, if_pos idle]
      constructor
      · intro guarded _
        exact (guarded ⟨rfl, rfl⟩).1
      · intro started _
        exact ⟨started down, kept, preferred⟩

theorem loop_guarded (sel : WifiBssidSelect) (nowMs : UInt32) (sound : sel.Sound)
    (guarded : sel.Guarded) : (sel.loop nowMs).Sound ∧ (sel.loop nowMs).Guarded := by
  rw [loop]
  by_cases still : sel.desired = "" ∨ sel.pinReleased = true ∨ sel.pinnedSinceMs = 0
  · rw [if_pos still]
    exact ⟨sound, guarded⟩
  · rw [if_neg still]
    cases link : sel.wifi.connected with
    | true =>
        refine ⟨sound, ?_⟩
        intro pinned
        exact absurd (pinned.2.symm.trans link) (by decide)
    | false =>
        rw [if_neg (by decide)]
        by_cases expired : pinFallbackMs ≤ nowMs - sel.pinnedSinceMs
        · rw [if_pos expired, releasePin]
          by_cases empty : sel.wifi.staSsid = ""
          · rw [if_pos empty]
            exact ⟨sound, guarded⟩
          · rw [if_neg empty]
            refine ⟨?_, ?_⟩
            · intro installed
              cases installed
            · intro pinned
              cases pinned.1
        · rw [if_neg expired]
          exact ⟨sound, guarded⟩

theorem start_guarded (restoreValue : Bool) (stored : Option String) (staSsid : String)
    (bssid : Bssid) :
    (setup parseBssid restoreValue stored staSsid bssid).Sound ∧
      (setup parseBssid restoreValue stored staSsid bssid).Guarded := by
  refine ⟨?_, ?_⟩
  · intro installed
    cases installed
  · intro pinned
    cases pinned.1

theorem step_sound (sel : WifiBssidSelect) (event : PinEvent) (sound : sel.Sound)
    (guarded : sel.Guarded) : (sel.step parseBssid event).Sound := by
  cases event with
  | control value nowMs dropped =>
      exact applyLock_sound parseBssid (sel.choose parseBssid value) nowMs dropped
        fun installed => (sound installed).1
  | connect ssid bssid nowMs dropped =>
      rw [step, onWifiConnectState, if_neg ssid.property]
      exact applyLock_sound parseBssid _ nowMs dropped fun _ => ssid.property
  | disconnect nowMs dropped =>
      rw [step, onWifiConnectState, if_pos rfl]
      split
      · exact applyLock_sound parseBssid sel.linkDown.rearm nowMs dropped
          fun installed => (sound installed).1
      · exact sound
  | loop nowMs => exact (loop_guarded sel nowMs sound guarded).1

theorem step_guarded (sel : WifiBssidSelect) (event : PinEvent) (sound : sel.Sound)
    (guarded : sel.Guarded) :
    (sel.step parseBssid event).Guarded ↔ sel.Covered parseBssid event := by
  cases event with
  | control value nowMs dropped =>
      exact applyLock_guarded parseBssid (sel.choose parseBssid value) nowMs dropped
        (fun installed => (sound installed).1) rfl
  | connect ssid bssid nowMs dropped =>
      rw [step, onWifiConnectState, if_neg ssid.property]
      exact applyLock_guarded parseBssid
        { sel.linkUp ssid bssid with pinnedSinceMs := 0 } nowMs dropped
        (fun _ => ssid.property) rfl
  | disconnect nowMs dropped =>
      rw [step, onWifiConnectState, if_pos rfl, Covered]
      by_cases released : sel.pinReleased = true
      · have free : sel.linkDown.pinReleased = true := released
        rw [if_pos free, if_pos released]
        exact applyLock_guarded parseBssid sel.linkDown.rearm nowMs dropped
          (fun installed => (sound installed).1) rfl
      · have held : ¬ sel.linkDown.pinReleased = true := released
        rw [if_neg held, if_neg released]
        constructor
        · intro waiting installed
          exact (waiting ⟨installed, rfl⟩).1
        · intro running pinned
          exact ⟨running pinned.1, (sound pinned.1).2⟩
  | loop nowMs => exact iff_of_true (loop_guarded sel nowMs sound guarded).2 trivial

/-- Until the timer has expired, nothing but a choice or a connection changes a pin that waits. -/
theorem idle_step (sel : WifiBssidSelect) (event : PinEvent) (sound : sel.Sound)
    (guarded : sel.Guarded) (pinned : sel.Pinned) (idle : event.isIdle = true) :
    sel.step parseBssid event = sel ∨ (sel.step parseBssid event).wifi.staBssid = none := by
  obtain ⟨named, kept, preferred⟩ := sound pinned.1
  cases event with
  | control value nowMs dropped => cases idle
  | connect ssid bssid nowMs dropped => cases idle
  | disconnect nowMs dropped =>
      left
      have down : sel.linkDown = sel := by
        simp [linkDown, ← pinned.2]
      rw [step, onWifiConnectState, if_pos rfl, down, kept]
      rfl
  | loop nowMs =>
      have waiting : ¬ (sel.desired = "" ∨ sel.pinReleased = true ∨ sel.pinnedSinceMs = 0) := by
        simp [preferred, kept, (guarded pinned).1]
      rw [step, loop, if_neg waiting, pinned.2, if_neg (by decide)]
      by_cases expired : pinFallbackMs ≤ nowMs - sel.pinnedSinceMs
      · right
        rw [if_pos expired, releasePin, if_neg named]
        rfl
      · left
        rw [if_neg expired]

theorem loop_expired (sel : WifiBssidSelect) (nowMs : UInt32) (sound : sel.Sound)
    (guarded : sel.Guarded) (pinned : sel.Pinned)
    (expired : pinFallbackMs ≤ nowMs - sel.pinnedSinceMs) :
    (sel.step parseBssid (.loop nowMs)).wifi.staBssid = none := by
  obtain ⟨named, kept, preferred⟩ := sound pinned.1
  have waiting : ¬ (sel.desired = "" ∨ sel.pinReleased = true ∨ sel.pinnedSinceMs = 0) := by
    simp [preferred, kept, (guarded pinned).1]
  rw [step, loop, if_neg waiting, pinned.2, if_neg (by decide), if_pos expired, releasePin,
    if_neg named]
  rfl

theorem rescued_of_guarded (sel : WifiBssidSelect) (sound : sel.Sound) (guarded : sel.Guarded) :
    sel.Rescued parseBssid := by
  intro pinned events idle late
  induction events with
  | nil =>
      obtain ⟨nowMs, member, _⟩ := late
      cases member
  | cons event rest ih =>
      have idleHere := idle event List.mem_cons_self
      by_cases here : (sel.step parseBssid event).wifi.staBssid = none
      · refine ⟨[event], ?_, here⟩
        exact ⟨rest, rfl⟩
      · have same := (idle_step parseBssid sel event sound guarded pinned idleHere).resolve_right here
        have later : ∃ nowMs, .loop nowMs ∈ rest ∧ pinFallbackMs ≤ nowMs - sel.pinnedSinceMs := by
          obtain ⟨nowMs, member, expired⟩ := late
          rcases List.mem_cons.mp member with rfl | there
          · exact absurd (loop_expired parseBssid sel nowMs sound guarded pinned expired) here
          · exact ⟨nowMs, there, expired⟩
        obtain ⟨early, initial, released⟩ :=
          ih (fun other member => idle other (List.mem_cons_of_mem event member)) later
        refine ⟨event :: early, List.prefix_cons_inj event |>.mpr initial, ?_⟩
        rw [List.foldl_cons, same]
        exact released

/-- The pin strands the device in no state of a run just when every step of it is covered. -/
theorem free_iff_covered (restoreValue : Bool) (stored : Option String) (staSsid : String)
    (bssid : Bssid) (events : List PinEvent) :
    Run.Visits (step parseBssid) (Free parseBssid)
        (setup parseBssid restoreValue stored staSsid bssid) events ↔
      Run.Along (step parseBssid) (Covered parseBssid)
        (setup parseBssid restoreValue stored staSsid bssid) events := by
  apply Run.visits_iff_along_of_invariant (step parseBssid)
    (fun sel => sel.Sound ∧ sel.Guarded) (Free parseBssid) (Covered parseBssid)
  · intro sel both
    exact ⟨both.2, rescued_of_guarded parseBssid sel both.1 both.2⟩
  · intro sel event both
    have exact_iff := step_guarded parseBssid sel event both.1 both.2
    constructor
    · intro free
      exact exact_iff.mp free.1
    · intro covered
      have guarded := exact_iff.mpr covered
      exact ⟨guarded, rescued_of_guarded parseBssid _
        (step_sound parseBssid sel event both.1 both.2) guarded⟩
  · intro sel event both covered
    exact ⟨step_sound parseBssid sel event both.1 both.2,
      (step_guarded parseBssid sel event both.1 both.2).mpr covered⟩
  · exact start_guarded parseBssid restoreValue stored staSsid bssid

private def preferredAp : Bssid := #v[0xAA, 0xBB, 0xCC, 0xDD, 0xEE, 0x01]

private def parsePreferred (value : String) : Option Bssid :=
  if value = "AA:BB:CC:DD:EE:01" then some preferredAp else none

/-- The preferred access point is chosen while the link is on it, and the link drops. -/
theorem stranded_after_drop :
    ¬ ∀ (restoreValue : Bool) (stored : Option String) (staSsid : String) (bssid : Bssid)
      (events : List PinEvent), Run.Visits (step parsePreferred) (Free parsePreferred)
        (setup parsePreferred restoreValue stored staSsid bssid) events := by
  intro free
  have visits := free true none "" (Vector.replicate 6 0)
    [.connect ⟨"home", by decide⟩ preferredAp 1000 false,
      .control "AA:BB:CC:DD:EE:01" 2000 false, .disconnect 3000 false]
  have last := (Run.visits_last _ _ _ _ visits).1 ⟨by decide +kernel, by decide +kernel⟩
  exact absurd last.1 (by decide +kernel)

end WifiBssidSelect

end Wifi
