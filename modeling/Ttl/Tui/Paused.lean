import Ttl.Tui.App
import Ttl.Tui.ReplayReset

/-!
# The displayed pause

`UiState` holds a copy of the selected session's pause. A key keeps the two equal (`displaysPause_handleKey`), and so
do the target manager, the engines and the receivers. The poll of an added target selects it and leaves the copy as it
was, so that they stay equal exactly when the copy was already that of the added target
(`displaysPause_pollAddTargetResult_iff`). Over runs this is `showsPause_iff`.
-/

namespace Ttl

open Runs

namespace SessionOp

/-- Only the UI pauses a session. -/
theorem paused_apply (x : Session) {op : SessionOp} (hop : App.isPause op = false) :
    (op.apply x).paused = x.paused := by
  cases op with
  | sent flow_id ttl => rfl
  | response config now resp =>
    rw [apply, Session.applyResponse_eq]
  | timeout now record_events update_pmtud key probe =>
    rw [apply]
    unfold Session.recordPendingTimeout
    dsimp only
    split_ifs <;> rfl
  | polled target resp =>
    rw [apply]
    unfold Session.applyPolled
    dsimp only
    split_ifs <;> rfl
  | replay event => exact (Session.sameFrame_applyReplayEvent x event).paused
  | reset now => rfl
  | record event => rfl
  | pause paused => cases hop
  | pmtudCheck config =>
    rw [apply]
    unfold Session.checkPmtudReady
    split_ifs
    · split
      · split <;> rfl
      · rfl
    · rfl
  | pmtudSent => rfl
  | pmtudClamp packet_size => rfl

end SessionOp

namespace App

/-- The session that is selected. -/
def selectedSession (s : App) : Option Session :=
  s.targets[s.ui.selected_target]?.bind fun t => s.sessions.lookup t

/-- The pause that is displayed is that of the selected session. -/
def DisplaysPause (s : App) : Prop := ∀ session, s.selectedSession = some session → s.ui.paused = session.paused

/-- No overlay takes the keys. -/
def MainView (ui : UiState) : Prop :=
  ui.show_help = false ∧ ui.show_target_input = false ∧ ui.show_settings = false ∧ ui.show_hop_detail = false ∧
    ui.show_target_list = false

/-- The pause that is displayed is that of the selected session, and the pause keys toggle that one. -/
structure ShowsPause (s : App) : Prop where
  displays : s.DisplaysPause
  toggles : MainView s.ui → ∀ now key, key.code = .Char 'p' ∨ key.code = .Char ' ' →
    ∀ session, s.selectedSession = some session →
      (s.handleKey now key).selectedSession = some { session with paused := ! session.paused }

/-! ## One step -/

/-- What the displayed pause depends on, and the replies. -/
def view (s : App) : List IpAddr × KeyMap IpAddr Session × KeyMap ℕ (Except (List Char) AddedTarget) × ℕ × Bool :=
  (s.targets, s.sessions, s.replies, s.ui.selected_target, s.ui.paused)

/-- What a key does to what is displayed, at the time `now`. -/
inductive Turn (s : App) (now : ℕ) (t : App) : Prop where
  | stay (h : t.view = s.view)
  | switch (i : ℕ) (h : t.view = (s.switchTo i).view)
  | toggle (h : t.view = s.togglePause.view)
  | reset (h : t.view = (s.resetCurrent now).view)

variable {s t : App} {now : ℕ}

/-- A turn, whichever branch is taken. -/
theorem Turn.ite {P : Prop} [Decidable P] {u : App} (ht : s.Turn now t) (hu : s.Turn now u) :
    s.Turn now (if P then t else u) := by
  split_ifs
  · exact ht
  · exact hu

/-- Going to the next target displays the pause of its session. -/
theorem turn_nextTarget (s : App) (now : ℕ) : s.Turn now s.nextTarget := by
  unfold nextTarget
  split_ifs
  · exact .switch _ rfl
  · exact .stay rfl

/-- Going to the previous target displays the pause of its session. -/
theorem turn_prevTarget (s : App) (now : ℕ) : s.Turn now s.prevTarget := by
  unfold prevTarget
  split_ifs
  · exact .switch _ rfl
  · exact .switch _ rfl
  · exact .stay rfl

/-- Opening the target list changes nothing of what the displayed pause depends on. -/
theorem view_openTargetList (s : App) : s.openTargetList.view = s.view := by
  unfold openTargetList
  split_ifs <;> rfl

/-- Selecting the row above changes nothing of what the displayed pause depends on. -/
theorem view_selectUp (s : App) : s.selectUp.view = s.view := by
  unfold selectUp
  dsimp only
  split_ifs <;> rfl

/-- Selecting the row below changes nothing of what the displayed pause depends on. -/
theorem view_selectDown (s : App) : s.selectDown.view = s.view := by
  unfold selectDown
  dsimp only
  split_ifs <;> rfl

/-- A key of the main view keeps the pause, toggles it, resets the session or goes to another target. -/
theorem turn_handleMainKey (s : App) (now : ℕ) (key : KeyEvent) : s.Turn now (s.handleMainKey now key) := by
  obtain ⟨code, control⟩ := key
  cases code with
  | Char c =>
    refine .ite (.stay rfl) (.ite (.stay rfl) (.ite (s.turn_nextTarget now) (.ite (s.turn_prevTarget now) ?_)))
    refine .ite (.toggle rfl) (.ite (.reset rfl) (.ite (.stay rfl) (.ite (.stay rfl) ?_)))
    exact .ite (.stay s.view_openTargetList) (.ite (.stay s.view_selectUp) (.ite (.stay s.view_selectDown) (.stay rfl)))
  | Tab => exact s.turn_nextTarget now
  | BackTab => exact s.turn_prevTarget now
  | Up => exact .stay s.view_selectUp
  | Down => exact .stay s.view_selectDown
  | Enter => exact .ite (.stay rfl) (.stay rfl)
  | Esc => exact .stay rfl
  | _ => exact .stay rfl

/-- Submitting a target changes nothing of what the displayed pause depends on. -/
theorem view_submitTarget (s : App) : s.submitTarget.view = s.view := by
  unfold submitTarget
  dsimp only
  split_ifs <;> rfl

/-- A key of the target input changes nothing of what the displayed pause depends on. -/
theorem view_handleTargetInputKey (s : App) (key : KeyEvent) : (s.handleTargetInputKey key).view = s.view := by
  unfold handleTargetInputKey
  dsimp only
  split
  case h_2 => exact s.view_submitTarget
  case h_7 => split_ifs <;> rfl
  all_goals rfl

/-- A key of the settings changes nothing of what the displayed pause depends on. -/
theorem view_handleSettingsKey (s : App) (key : KeyEvent) : (s.handleSettingsKey key).view = s.view := by
  unfold handleSettingsKey
  split <;> rfl

/-- A key of the details of a hop changes nothing of what the displayed pause depends on. -/
theorem view_handleHopDetailKey (s : App) (key : KeyEvent) : (s.handleHopDetailKey key).view = s.view := by
  unfold handleHopDetailKey
  dsimp only
  split
  case h_5 => split_ifs <;> rfl
  all_goals rfl

/-- A key of the target list leaves the selection, or goes to a target. -/
theorem turn_handleTargetListKey (s : App) (now : ℕ) (key : KeyEvent) :
    s.Turn now (s.handleTargetListKey key) := by
  unfold handleTargetListKey
  dsimp only
  split
  case h_2 => exact .switch _ rfl
  case h_5 =>
    split_ifs
    · exact .stay rfl
    · exact .stay rfl
    · exact .switch _ rfl
    · exact .stay rfl
    · exact .stay rfl
  all_goals exact .stay rfl

/-- A key turns what is displayed, whichever overlay takes it. -/
theorem turn_handleKey (s : App) (now : ℕ) (key : KeyEvent) : s.Turn now (s.handleKey now key) := by
  unfold handleKey
  split_ifs
  · exact .stay rfl
  · exact .stay (s.view_handleTargetInputKey key)
  · exact .stay (s.view_handleSettingsKey key)
  · exact .stay (s.view_handleHopDetailKey key)
  · exact s.turn_handleTargetListKey now key
  · exact s.turn_handleMainKey now key

/-- What is displayed depends on the view. -/
theorem displaysPause_congr (h : t.view = s.view) : t.DisplaysPause ↔ s.DisplaysPause := by
  simp only [view, Prod.mk.injEq] at h
  obtain ⟨htargets, hsessions, -, hselected, hpaused⟩ := h
  rw [DisplaysPause, DisplaysPause, selectedSession, selectedSession, htargets, hsessions, hselected, hpaused]

/-- A target by its index. -/
theorem target_eq {i : ℕ} {a : IpAddr} (h : s.targets[i]? = some a) : s.target i = a := by
  rw [target, h]
  rfl

/-- The selected session is that of the selected target. -/
theorem selectedSession_eq_some {session : Session} : s.selectedSession = some session ↔
    ∃ a, s.targets[s.ui.selected_target]? = some a ∧ s.sessions.lookup a = some session :=
  Option.bind_eq_some_iff

/-- A switch displays the pause of its target. -/
theorem displaysPause_switchTo (s : App) (i : ℕ) : (s.switchTo i).DisplaysPause := by
  intro session h
  obtain ⟨a, ha, hsession⟩ := selectedSession_eq_some.mp h
  -- The flag is read from the session that the new index leads to.
  have htarget : s.target i = a := target_eq ha
  have hlookup : s.sessions.lookup a = some session := hsession
  have hpaused : (s.switchTo i).ui.paused = s.pausedOf (s.target i) := rfl
  rw [hpaused, htarget, pausedOf, hlookup]
  rfl

/-- The session that is selected once the current target's is modified. -/
theorem selectedSession_modify {f : Session → Session} (htargets : t.targets = s.targets)
    (hselected : t.ui.selected_target = s.ui.selected_target)
    (hsessions : t.sessions = KeyMap.modify s.sessions s.currentTarget f) :
    t.selectedSession = s.selectedSession.map f := by
  rw [selectedSession, selectedSession, htargets, hselected, hsessions]
  cases ha : s.targets[s.ui.selected_target]? with
  | none => rfl
  | some a =>
    have hcurrent : s.currentTarget = a := target_eq ha
    rw [Option.bind_some, Option.bind_some, hcurrent, KeyMap.lookup_modify, if_pos rfl]

/-- The pause key gives the selected session the other of the displayed pause. -/
theorem selectedSession_togglePause (s : App) :
    s.togglePause.selectedSession = s.selectedSession.map fun session => { session with paused := ! s.ui.paused } :=
  selectedSession_modify rfl rfl rfl

/-- A pause displays what it sets. -/
theorem displaysPause_togglePause (s : App) : s.togglePause.DisplaysPause := by
  intro session h
  rw [selectedSession_togglePause] at h
  obtain ⟨before, -, rfl⟩ := Option.map_eq_some_iff.mp h
  rfl

/-- A reset keeps the pause of the session. -/
theorem displaysPause_resetCurrent (h : s.DisplaysPause) (now : ℕ) : (s.resetCurrent now).DisplaysPause := by
  intro session hsession
  have hreset : (s.resetCurrent now).selectedSession = s.selectedSession.map fun session => session.resetStats now :=
    selectedSession_modify rfl rfl rfl
  rw [hreset] at hsession
  obtain ⟨before, hbefore, rfl⟩ := Option.map_eq_some_iff.mp hsession
  exact h before hbefore

/-- **No key parts the display from the session.** -/
theorem displaysPause_handleKey (h : s.DisplaysPause) (now : ℕ) (key : KeyEvent) :
    (s.handleKey now key).DisplaysPause := by
  cases s.turn_handleKey now key with
  | stay hview => exact (displaysPause_congr hview).mpr h
  | switch i hview => exact (displaysPause_congr hview).mpr (s.displaysPause_switchTo i)
  | toggle hview => exact (displaysPause_congr hview).mpr s.displaysPause_togglePause
  | reset hview => exact (displaysPause_congr hview).mpr (displaysPause_resetCurrent h now)

/-- The pause keys toggle the pause when no overlay takes them. -/
theorem handleKey_pause (h : MainView s.ui) (now : ℕ) {key : KeyEvent}
    (hkey : key.code = .Char 'p' ∨ key.code = .Char ' ') : s.handleKey now key = s.togglePause := by
  obtain ⟨hhelp, hinput, hsettings, hdetail, hlist⟩ := h
  have hmain : s.handleKey now key = s.handleMainKey now key := by
    rw [handleKey, hhelp, hinput, hsettings, hdetail, hlist]
    rfl
  rw [hmain, handleMainKey]
  rcases hkey with hkey | hkey <;> rw [hkey] <;> rfl

/-- **The pause keys toggle what is displayed** where what is displayed is the session's pause. -/
theorem showsPause_of_displaysPause (h : s.DisplaysPause) : s.ShowsPause := by
  refine ⟨h, fun hmain now key hkey session hsession => ?_⟩
  rw [handleKey_pause hmain now hkey, selectedSession_togglePause, hsession, Option.map_some, h session hsession]

/-! ## An added target -/

/-- Every target, and every target that a reply names, has a session. -/
structure Linked (s : App) : Prop where
  target : ∀ a ∈ s.targets, (s.sessions.lookup a).isSome
  reply : ∀ channel added, s.replies.lookup channel = some (.ok added) → (s.sessions.lookup added.ip).isSome

/-- What a link between targets and sessions depends on is in the view. -/
theorem Linked.of_view (h : s.Linked) (hview : t.view = s.view) : t.Linked := by
  simp only [view, Prod.mk.injEq] at hview
  obtain ⟨htargets, hsessions, hreplies, -, -⟩ := hview
  exact ⟨by rw [htargets, hsessions]; exact h.target, by rw [hreplies, hsessions]; exact h.reply⟩

/-- Changing a session adds none and removes none. -/
theorem isSome_lookup_modify (m : KeyMap IpAddr Session) (a b : IpAddr) (f : Session → Session) :
    ((KeyMap.modify m a f).lookup b).isSome ↔ (m.lookup b).isSome := by
  rw [AList.lookup_isSome, AList.lookup_isSome, KeyMap.mem_modify]

/-- Changing a session keeps the targets linked. -/
theorem Linked.of_modify {a : IpAddr} {f : Session → Session} (h : s.Linked) (htargets : t.targets = s.targets)
    (hreplies : t.replies = s.replies) (hsessions : t.sessions = KeyMap.modify s.sessions a f) : t.Linked := by
  refine ⟨?_, ?_⟩
  · intro b hb
    rw [hsessions, isSome_lookup_modify]
    exact h.target b (htargets ▸ hb)
  · intro channel added hreply
    rw [hsessions, isSome_lookup_modify]
    exact h.reply channel added (hreplies ▸ hreply)

/-- Every key keeps the targets linked. -/
theorem Linked.handleKey (h : s.Linked) (now : ℕ) (key : KeyEvent) : (s.handleKey now key).Linked := by
  cases s.turn_handleKey now key with
  | stay hview => exact h.of_view hview
  | switch i hview =>
    have hswitch : (s.switchTo i).Linked := ⟨h.target, h.reply⟩
    exact hswitch.of_view hview
  | toggle hview =>
    have htoggle : s.togglePause.Linked := h.of_modify rfl rfl rfl
    exact htoggle.of_view hview
  | reset hview =>
    have hreset : (s.resetCurrent now).Linked := h.of_modify rfl rfl rfl
    exact hreset.of_view hview

/-- What becomes of the state when the poll finds an added target. -/
structure Added (s : App) (added : AddedTarget) (t : App) : Prop where
  selected : t.targets[t.ui.selected_target]? = some added.ip
  targets : ∀ a ∈ t.targets, a ∈ s.targets ∨ a = added.ip
  sessions : t.sessions = s.sessions
  replies : t.replies = s.replies
  /-- The copy is left as it was. -/
  paused : t.ui.paused = s.ui.paused

/-- The poll selects the added target, and displays what was displayed. -/
theorem added_selectAdded (s : App) (added : AddedTarget) : s.Added added (s.selectAdded added) := by
  have hmem : added.ip ∈ if added.ip ∈ s.targets then s.targets else s.targets ++ [added.ip] := by
    split_ifs with h
    · exact h
    · exact List.mem_append_right _ (List.mem_singleton_self _)
  have htargets : ∀ a ∈ if added.ip ∈ s.targets then s.targets else s.targets ++ [added.ip],
      a ∈ s.targets ∨ a = added.ip := by
    intro a ha
    split_ifs at ha
    · exact .inl ha
    · exact (List.mem_append.mp ha).imp_right List.mem_singleton.mp
  unfold selectAdded
  generalize (if added.ip ∈ s.targets then s.targets else s.targets ++ [added.ip]) = targets at hmem htargets
  -- The target is on the list by now, so it has an index.
  obtain ⟨idx, hidx⟩ := Option.isSome_iff_exists.mp (List.isSome_idxOf?.mpr hmem)
  obtain ⟨hlt, hget, -⟩ := List.idxOf?_eq_some_iff.mp hidx
  dsimp only
  rw [hidx]
  exact ⟨List.getElem?_eq_some_iff.mpr ⟨hlt, hget⟩, htargets, rfl, rfl, rfl⟩

/-- What a poll does: an added target is selected, and anything else is not displayed. -/
theorem pollAddTargetResult_cases (s : App) :
    (s.pollAddTargetResult.view = s.view ∧ ∀ added, s.answer ≠ some (.ok added)) ∨
      ∃ added, s.answer = some (.ok added) ∧ s.Added added s.pollAddTargetResult := by
  unfold pollAddTargetResult answer
  cases s.ui.target_input.pending with
  | none => exact .inl ⟨rfl, fun added h => by cases h⟩
  | some channel =>
    dsimp only
    rw [Option.bind_some]
    cases s.replies.lookup channel with
    | none =>
      refine .inl ⟨?_, fun added h => by cases h⟩
      dsimp only
      split_ifs <;> rfl
    | some reply =>
      cases reply with
      | error msg => exact .inl ⟨rfl, fun added h => by cases h⟩
      | ok added => exact .inr ⟨added, rfl, s.added_selectAdded added⟩

/-- A poll keeps the targets linked. -/
theorem Linked.pollAddTargetResult (h : s.Linked) : s.pollAddTargetResult.Linked := by
  rcases s.pollAddTargetResult_cases with ⟨hview, -⟩ | ⟨added, hanswer, hadded⟩
  · exact h.of_view hview
  · obtain ⟨channel, -, hreply⟩ := Option.bind_eq_some_iff.mp hanswer
    refine ⟨fun a ha => ?_, ?_⟩
    · rw [hadded.sessions]
      rcases hadded.targets a ha with hmem | rfl
      · exact h.target a hmem
      · exact h.reply channel added hreply
    · rw [hadded.sessions, hadded.replies]
      exact h.reply

/-- A poll keeps the display and the session together exactly when an added target that it finds is paused as the
display says. -/
theorem displaysPause_pollAddTargetResult_iff (hlinked : s.Linked) (h : s.DisplaysPause) :
    s.pollAddTargetResult.DisplaysPause ↔
      ∀ added, s.answer = some (.ok added) → s.ui.paused = s.pausedOf added.ip := by
  rcases s.pollAddTargetResult_cases with ⟨hview, hanswer⟩ | ⟨added, hanswer, hadded⟩
  · exact ⟨fun _ added hadded => absurd hadded (hanswer added), fun _ => (displaysPause_congr hview).mpr h⟩
  · obtain ⟨channel, -, hreply⟩ := Option.bind_eq_some_iff.mp hanswer
    obtain ⟨session, hsession⟩ := Option.isSome_iff_exists.mp (hlinked.reply channel added hreply)
    -- The added target is selected, and the copy is not touched.
    have hselected : s.pollAddTargetResult.selectedSession = some session := by
      rw [selectedSession, hadded.selected, hadded.sessions, Option.bind_some, hsession]
    have hpaused : s.pausedOf added.ip = session.paused := by
      rw [pausedOf, hsession]
      rfl
    rw [DisplaysPause, hselected, hadded.paused, hanswer]
    simp [hpaused]

/-- The manager leaves the sessions that there are. -/
theorem lookup_manage (s : App) (request : AddTargetRequest) (resolved : Except (List Char) IpAddr)
    (refused : Option (List Char)) (config : Config) (now : ℕ) {a : IpAddr} (h : (s.sessions.lookup a).isSome) :
    (s.manage request resolved refused config now).sessions.lookup a = s.sessions.lookup a := by
  unfold manage
  cases resolved with
  | error e => rfl
  | ok ip =>
    dsimp only
    split_ifs with hip
    · rfl
    · cases refused with
      | some e => rfl
      | none =>
        -- A new session does not touch a target that has one.
        have hne : a ≠ ip := fun heq => hip (heq ▸ h)
        exact (KeyMap.lookup_insert _ _ _ _).trans (if_neg hne)

/-- The manager leaves the targets and the UI. -/
theorem frame_manage (s : App) (request : AddTargetRequest) (resolved : Except (List Char) IpAddr)
    (refused : Option (List Char)) (config : Config) (now : ℕ) :
    (s.manage request resolved refused config now).targets = s.targets ∧
      (s.manage request resolved refused config now).ui = s.ui := by
  unfold manage
  cases resolved with
  | error e => exact ⟨rfl, rfl⟩
  | ok ip =>
    dsimp only
    split_ifs
    · exact ⟨rfl, rfl⟩
    · cases refused <;> exact ⟨rfl, rfl⟩

/-- A reply that names a target with a session. -/
theorem Linked.send (h : s.Linked) (channel : ℕ) {reply : Except (List Char) AddedTarget}
    (hreply : ∀ added, reply = .ok added → (s.sessions.lookup added.ip).isSome) :
    Linked { s with replies := s.replies.insert channel reply } := by
  refine ⟨h.target, fun channel' added hlookup => ?_⟩
  dsimp only at hlookup
  rw [KeyMap.lookup_insert] at hlookup
  split_ifs at hlookup
  · exact hreply added (Option.some.inj hlookup)
  · exact h.reply channel' added hlookup

/-- A session more keeps the targets linked. -/
theorem Linked.insert (h : s.Linked) (ip : IpAddr) (session : Session) :
    Linked { s with sessions := s.sessions.insert ip session } := by
  have hmore : ∀ a, (s.sessions.lookup a).isSome → ((s.sessions.insert ip session).lookup a).isSome := by
    intro a ha
    rw [KeyMap.lookup_insert]
    split_ifs
    · rfl
    · exact ha
  exact ⟨fun a ha => hmore a (h.target a ha), fun channel added hreply => hmore _ (h.reply channel added hreply)⟩

/-- The manager adds the session of the target that it names. -/
theorem Linked.manage (h : s.Linked) (request : AddTargetRequest) (resolved : Except (List Char) IpAddr)
    (refused : Option (List Char)) (config : Config) (now : ℕ) :
    (s.manage request resolved refused config now).Linked := by
  unfold App.manage
  cases resolved with
  | error e => exact h.send request.reply fun added hadded => by cases hadded
  | ok ip =>
    dsimp only
    split_ifs with hip
    · exact h.send request.reply fun added hadded => by cases hadded; exact hip
    · cases refused with
      | some e => exact h.send request.reply fun added hadded => by cases hadded
      | none =>
        refine (h.insert ip (Session.new ip config now)).send request.reply fun added hadded => ?_
        cases hadded
        exact Option.isSome_iff_exists.mpr ⟨_, (KeyMap.lookup_insert _ _ _ _).trans (if_pos rfl)⟩

/-- The displayed pause is still that of the selected session. -/
theorem displaysPause_manage (hlinked : s.Linked) (h : s.DisplaysPause) (request : AddTargetRequest)
    (resolved : Except (List Char) IpAddr) (refused : Option (List Char)) (config : Config) (now : ℕ) :
    (s.manage request resolved refused config now).DisplaysPause := by
  obtain ⟨htargets, hui⟩ := s.frame_manage request resolved refused config now
  intro session hsession
  obtain ⟨a, ha, hlookup⟩ := selectedSession_eq_some.mp hsession
  rw [htargets, hui] at ha
  -- The selected target has a session, so the manager inserts none for it.
  rw [lookup_manage s request resolved refused config now (hlinked.target a (List.mem_of_getElem? ha))] at hlookup
  rw [hui]
  exact h session (selectedSession_eq_some.mpr ⟨a, ha, hlookup⟩)

/-- An operation on a session that keeps its pause. -/
theorem displaysPause_modify (h : s.DisplaysPause) (a : IpAddr) {f : Session → Session}
    (hf : ∀ session, (f session).paused = session.paused) :
    DisplaysPause { s with sessions := KeyMap.modify s.sessions a f } := by
  intro session hsession
  obtain ⟨b, hb, hlookup⟩ := selectedSession_eq_some.mp hsession
  dsimp only at hb hlookup ⊢
  rw [KeyMap.lookup_modify] at hlookup
  split_ifs at hlookup with hba
  · obtain ⟨before, hbefore, rfl⟩ := Option.map_eq_some_iff.mp hlookup
    rw [hf]
    exact h before (selectedSession_eq_some.mpr ⟨b, hb, hba ▸ hbefore⟩)
  · exact h session (selectedSession_eq_some.mpr ⟨b, hb, hlookup⟩)

/-! ## Runs -/

/-- A poll finds no added target, or one that is paused as the display says. -/
def Keeps (s : App) (a : Action) : Prop :=
  a = .poll → s.cancelled = false → ∀ added, s.answer = some (.ok added) → s.ui.paused = s.pausedOf added.ip

/-- What a step is. -/
inductive Taken (s : App) : Action → App → Prop where
  | key (now : ℕ) (key : KeyEvent) : Taken s (.key now key) (s.handleKey now key)
  | poll : Taken s .poll s.pollAddTargetResult
  | manage {request : AddTargetRequest} {requests : List AddTargetRequest} (queue : s.requests = request :: requests)
      (resolved : Except (List Char) IpAddr) (refused : Option (List Char)) (config : Config) (now : ℕ) :
      Taken s (.manage resolved refused config now)
        ({ s with requests := requests }.manage request resolved refused config now)
  | close : Taken s .close { s with manager_closed := true, requests := [] }
  | trace (target : IpAddr) {op : SessionOp} (running : isPause op = false) :
      Taken s (.trace target op) { s with sessions := KeyMap.modify s.sessions target fun session => op.apply session }

/-- A step is taken before the cancellation, and is as `Taken` says. -/
theorem step_cases {a : Action} (h : s.step a = some t) : s.cancelled = false ∧ s.Taken a t := by
  unfold step at h
  by_cases hcancelled : s.cancelled = true
  · rw [if_pos hcancelled] at h
    cases h
  · rw [if_neg hcancelled] at h
    refine ⟨Bool.eq_false_of_not_eq_true hcancelled, ?_⟩
    cases a with
    | key now key =>
      cases h
      exact .key now key
    | poll =>
      cases h
      exact .poll
    | manage resolved refused config now =>
      dsimp only at h
      cases hqueue : s.requests with
      | nil =>
        rw [hqueue] at h
        cases h
      | cons request requests =>
        rw [hqueue] at h
        dsimp only at h
        split_ifs at h
        cases h
        exact .manage hqueue resolved refused config now
    | close =>
      cases h
      exact .close
    | trace target op =>
      dsimp only at h
      split_ifs at h with hop
      cases h
      exact .trace target (Bool.eq_false_of_not_eq_true hop)

/-- Every step keeps the targets linked. -/
theorem linked_step (s : App) (a : Action) (t : App) (h : s.Linked) (hstep : s.step a = some t) : t.Linked := by
  cases (step_cases hstep).2 with
  | key now key => exact h.handleKey now key
  | poll => exact h.pollAddTargetResult
  | @manage request requests queue resolved refused config now =>
    have hnext : Linked { s with requests := requests } := ⟨h.target, h.reply⟩
    exact hnext.manage request resolved refused config now
  | close => exact ⟨h.target, h.reply⟩
  | trace target running => exact h.of_modify rfl rfl rfl

/-- A step but the poll keeps the display and the session together. -/
theorem displaysPause_step {a : Action} (hlinked : s.Linked) (h : s.DisplaysPause) (ha : a ≠ .poll)
    (hstep : s.step a = some t) : t.DisplaysPause := by
  cases (step_cases hstep).2 with
  | key now key => exact displaysPause_handleKey h now key
  | poll => exact absurd rfl ha
  | @manage request requests queue resolved refused config now =>
    have hnext : Linked { s with requests := requests } := ⟨hlinked.target, hlinked.reply⟩
    exact displaysPause_manage hnext h request resolved refused config now
  | close => exact h
  | trace target running => exact displaysPause_modify h target fun session => SessionOp.paused_apply session running

/-- A step keeps the display and the session together exactly when it meets the condition. -/
theorem keeps_iff (s : App) (a : Action) (hlinked : s.Linked) (h : s.DisplaysPause) :
    s.Keeps a ↔ ∀ t, s.step a = some t → t.DisplaysPause := by
  by_cases ha : a = .poll
  · subst ha
    constructor
    · intro hkeeps t ht
      obtain ⟨hcancelled, htaken⟩ := step_cases ht
      cases htaken
      exact (displaysPause_pollAddTargetResult_iff hlinked h).mpr (hkeeps rfl hcancelled)
    · intro hnext _ hcancelled
      have hstep : s.step .poll = some s.pollAddTargetResult := by
        unfold step
        rw [hcancelled]
        rfl
      exact (displaysPause_pollAddTargetResult_iff hlinked h).mp (hnext _ hstep)
  · exact ⟨fun _ t ht => displaysPause_step hlinked h ha ht, fun _ heq => absurd heq ha⟩

/-- The sessions of a new run are all new, and every target has one. -/
theorem lookup_foldl_insert (targets : List IpAddr) (config : IpAddr → Config) (now : ℕ)
    (sessions : KeyMap IpAddr Session) (a : IpAddr) :
    (targets.foldl (fun sessions t => sessions.insert t (Session.new t (config t) now)) sessions).lookup a =
      if a ∈ targets then some (Session.new a (config a) now) else sessions.lookup a := by
  induction targets generalizing sessions with
  | nil => rfl
  | cons t targets ih =>
    rw [List.foldl_cons, ih, KeyMap.lookup_insert]
    by_cases ha : a ∈ targets
    · rw [if_pos ha, if_pos (List.mem_cons_of_mem t ha)]
    · rw [if_neg ha]
      by_cases hat : a = t
      · rw [if_pos hat, hat, if_pos List.mem_cons_self]
      · rw [if_neg hat, if_neg (List.not_mem_cons_of_ne_of_not_mem hat ha)]

/-- At the start every target has a new session. -/
theorem lookup_start {targets : List IpAddr} {config : IpAddr → Config} {now : ℕ} {a : IpAddr} (ha : a ∈ targets) :
    (start targets config now).sessions.lookup a = some (Session.new a (config a) now) :=
  (lookup_foldl_insert targets config now ∅ a).trans (if_pos ha)

/-- The targets are linked at the start. -/
theorem linked_start (targets : List IpAddr) (config : IpAddr → Config) (now : ℕ) :
    (start targets config now).Linked where
  target a ha := Option.isSome_iff_exists.mpr ⟨_, lookup_start ha⟩
  reply channel added hreply := by cases hreply

/-- No session is paused at the start, and none is displayed so. -/
theorem displaysPause_start (targets : List IpAddr) (config : IpAddr → Config) (now : ℕ) :
    (start targets config now).DisplaysPause := by
  intro session h
  obtain ⟨a, ha, hlookup⟩ := selectedSession_eq_some.mp h
  have hmem : a ∈ targets := List.mem_of_getElem? ha
  obtain rfl := Option.some.inj ((lookup_start hmem).symm.trans hlookup)
  rfl

/-- **The display follows the selected session** in every state of a run, and the pause keys toggle that session,
exactly when every poll finds no added target or one that is paused as the display says. -/
theorem showsPause_iff (targets : List IpAddr) (config : IpAddr → Config) (now : ℕ) (as : List Action) :
    (∀ n t, run step (start targets config now) (as.take n) = some t → t.ShowsPause) ↔
      StepsMeet step Keeps (start targets config now) as := by
  have hshows : ∀ t : App, t.ShowsPause ↔ t.DisplaysPause := fun t => ⟨ShowsPause.displays, showsPause_of_displaysPause⟩
  simp only [hshows]
  exact forall_run_take_iff linked_step keeps_iff (linked_start targets config now)
    (displaysPause_start targets config now) as

/-- A target is paused, another one is added, and the poll finds it. -/
def samplePauseThenAdd : List Action :=
  [.key 0 ⟨.Char 'p', false⟩, .key 0 ⟨.Char 'o', false⟩, .key 0 ⟨.Char 'a', false⟩, .key 0 ⟨.Enter, false⟩,
    .manage (.ok (.V4 ⟨192, 0, 2, 2⟩)) none SessionOp.sampleConfig 0, .poll]

/-- The added target is selected and runs, and the display says that it is paused. The pause key then leaves it
running. -/
theorem showsPause_fails_added :
    ∃ t, run step (start [.V4 ⟨192, 0, 2, 1⟩] (fun _ => SessionOp.sampleConfig) 0) samplePauseThenAdd = some t ∧
      t.ui.paused = true ∧ t.selectedSession.map Session.paused = some false ∧
      (t.handleKey 0 ⟨.Char 'p', false⟩).selectedSession.map Session.paused = some false ∧ ¬ t.ShowsPause := by
  have heval : (run step (start [.V4 ⟨192, 0, 2, 1⟩] (fun _ => SessionOp.sampleConfig) 0) samplePauseThenAdd).any
      (fun t => t.ui.paused = true ∧ t.selectedSession.map Session.paused = some false ∧
        (t.handleKey 0 ⟨.Char 'p', false⟩).selectedSession.map Session.paused = some false) = true := by decide
  obtain ⟨t, hrun, hpaused, hsession, hkey⟩ := exists_run _ heval
  refine ⟨t, hrun, hpaused, hsession, hkey, fun hshows => ?_⟩
  obtain ⟨session, hselected, hfalse⟩ := Option.map_eq_some_iff.mp hsession
  have hsame := hshows.displays session hselected
  rw [hpaused, hfalse] at hsame
  cases hsame

end App

end Ttl
