import Ttl.Lib.Exchange
import Ttl.Tui.Paused

/-!
# The dialog that adds a target

The UI sends a host with a fresh channel, and the target manager answers the requests in their order. `follows_run`
proves that the two refine an exchange of requests and answers: the queue is what waits, and the replies are what was
answered. What a poll finds is then the answer to the host that was submitted last (`answer_is_last`), also when
earlier requests were dismissed. `resolving_ends` is that a wait ends once the manager has worked off its queue, and
`targets_added_once` says which targets and sessions there are.
-/

namespace Ttl

open Runs

namespace App

/-- The hosts that were submitted, and the manager's answers. -/
abbrev Dialog := Exchange (List Char) (Except (List Char) AddedTarget)

/-- The host that a key submits. -/
def submitted (s : App) (key : KeyEvent) : Option (List Char) :=
  let host := trimChars s.ui.target_input.input
  if s.ui.show_help = false ∧ s.ui.show_target_input = true ∧ key.code = .Enter ∧
      ¬ (host = [] ∨ s.ui.target_input.resolving = true) ∧ s.manager_closed = false then some host
  else none

/-- What the manager answers. -/
def replyTo (s : App) (request : AddTargetRequest) (resolved : Except (List Char) IpAddr)
    (refused : Option (List Char)) : Except (List Char) AddedTarget :=
  match resolved with
  | .error e => .error e
  | .ok ip =>
    if (s.sessions.lookup ip).isSome then .ok ⟨ip, request.host, true⟩
    else
      match refused with
      | some e => .error e
      | none => .ok ⟨ip, request.host, false⟩

/-- What an action adds to the dialog. -/
def noteDialog (x : Dialog) (s : App) : Action → Dialog
  | .key _ key =>
    match s.submitted key with
    | some host => x.ask host
    | none => x
  | .manage resolved refused _ _ =>
    match s.requests with
    | request :: _ => x.answer (s.replyTo request resolved refused)
    | [] => x
  | _ => x

/-- The state is one in which the dialog has gone so far. -/
structure Follows (s : App) (x : Dialog) : Prop where
  channels : s.channels = x.asked.length
  /-- The requests that wait are queued, unless the manager has ended. -/
  requests : s.requests = if s.manager_closed then [] else x.waiting.map fun r => ⟨r.1, r.2⟩
  replies : Exchange.Slots s.replies x.answered
  /-- A target is added under the name that was submitted. -/
  names : ∀ (i : ℕ) (added : AddedTarget), x.answered[i]? = some (.ok added) → x.asked[i]? = some added.name
  /-- The UI waits for the last request alone. -/
  pending : ∀ channel, s.ui.target_input.pending = some channel → channel + 1 = x.asked.length
  resolving : s.ui.target_input.resolving = s.ui.target_input.pending.isSome

/-! ## Keys -/

/-- What the dialog depends on. -/
def dialogView (s : App) : List AddTargetRequest × ℕ × Bool × Option ℕ × Bool :=
  (s.requests, s.channels, s.manager_closed, s.ui.target_input.pending, s.ui.target_input.resolving)

/-- What a key does to the dialog. -/
inductive DialogTurn (s t : App) : Option (List Char) → Prop where
  | stay (h : t.dialogView = s.dialogView) : DialogTurn s t none
  | dismiss (h : t.dialogView = (s.requests, s.channels, s.manager_closed, none, false)) : DialogTurn s t none
  | submit {host : List Char} (opened : s.manager_closed = false)
      (h : t.dialogView = (s.requests ++ [⟨host, s.channels⟩], s.channels + 1, false, some s.channels, true)) :
      DialogTurn s t (some host)

variable {s t : App} {x : Dialog}

/-- A key of the settings does nothing to the dialog. -/
theorem dialogTurn_handleSettingsKey (s : App) (key : KeyEvent) : s.DialogTurn (s.handleSettingsKey key) none := by
  unfold handleSettingsKey
  split <;> exact .stay rfl

/-- Selecting the row above leaves the dialog. -/
theorem dialogView_selectUp (s : App) : s.selectUp.dialogView = s.dialogView := by
  unfold selectUp
  dsimp only
  split_ifs <;> rfl

/-- Selecting the row below leaves the dialog. -/
theorem dialogView_selectDown (s : App) : s.selectDown.dialogView = s.dialogView := by
  unfold selectDown
  dsimp only
  split_ifs <;> rfl

/-- Going to the next target leaves the dialog. -/
theorem dialogView_nextTarget (s : App) : s.nextTarget.dialogView = s.dialogView := by
  unfold nextTarget
  split_ifs <;> rfl

/-- Going to the previous target leaves the dialog. -/
theorem dialogView_prevTarget (s : App) : s.prevTarget.dialogView = s.dialogView := by
  unfold prevTarget
  split_ifs <;> rfl

/-- Opening the target list leaves the dialog. -/
theorem dialogView_openTargetList (s : App) : s.openTargetList.dialogView = s.dialogView := by
  unfold openTargetList
  split_ifs <;> rfl

/-- A turn of the dialog, whichever branch is taken. -/
theorem DialogTurn.ite {P : Prop} [Decidable P] {u : App} {sent : Option (List Char)} (ht : s.DialogTurn t sent)
    (hu : s.DialogTurn u sent) : s.DialogTurn (if P then t else u) sent := by
  split_ifs
  · exact ht
  · exact hu

/-- A key of the main view submits nothing. -/
theorem dialogTurn_handleMainKey (s : App) (now : ℕ) (key : KeyEvent) :
    s.DialogTurn (s.handleMainKey now key) none := by
  obtain ⟨code, control⟩ := key
  have hnext : s.DialogTurn s.nextTarget none := .stay s.dialogView_nextTarget
  have hprev : s.DialogTurn s.prevTarget none := .stay s.dialogView_prevTarget
  have hup : s.DialogTurn s.selectUp none := .stay s.dialogView_selectUp
  have hdown : s.DialogTurn s.selectDown none := .stay s.dialogView_selectDown
  have hlist : s.DialogTurn s.openTargetList none := .stay s.dialogView_openTargetList
  cases code with
  | Char c =>
    refine .ite (.stay rfl) (.ite (.stay rfl) (.ite hnext (.ite hprev ?_)))
    refine .ite (.stay rfl) (.ite (.stay rfl) (.ite (.stay rfl) (.ite (.dismiss rfl) ?_)))
    exact .ite hlist (.ite hup (.ite hdown (.stay rfl)))
  | Tab => exact hnext
  | BackTab => exact hprev
  | Up => exact hup
  | Down => exact hdown
  | Enter => exact .ite (.stay rfl) (.stay rfl)
  | _ => exact .stay rfl

/-- A key of the details of a hop submits nothing. -/
theorem dialogTurn_handleHopDetailKey (s : App) (key : KeyEvent) : s.DialogTurn (s.handleHopDetailKey key) none := by
  unfold handleHopDetailKey
  dsimp only
  split
  case h_5 => split_ifs <;> exact .stay rfl
  all_goals exact .stay rfl

/-- A key of the target list submits nothing. -/
theorem dialogTurn_handleTargetListKey (s : App) (key : KeyEvent) :
    s.DialogTurn (s.handleTargetListKey key) none := by
  unfold handleTargetListKey
  dsimp only
  split
  case h_5 => split_ifs <;> exact .stay rfl
  all_goals exact .stay rfl

/-- `Enter` submits the host where the source sends a request. -/
theorem dialogTurn_submitTarget (s : App) :
    s.DialogTurn s.submitTarget
      (if ¬ (trimChars s.ui.target_input.input = [] ∨ s.ui.target_input.resolving = true) ∧ s.manager_closed = false
        then some (trimChars s.ui.target_input.input) else none) := by
  unfold submitTarget
  dsimp only
  by_cases hidle : trimChars s.ui.target_input.input = [] ∨ s.ui.target_input.resolving = true
  · rw [if_pos hidle, if_neg fun h => h.1 hidle]
    exact .stay rfl
  · rw [if_neg hidle]
    cases hclosed : s.manager_closed with
    | true =>
      rw [if_pos rfl, if_neg fun h => Bool.noConfusion h.2]
      exact .stay rfl
    | false =>
      rw [if_neg Bool.false_ne_true, if_pos ⟨hidle, rfl⟩]
      exact .submit hclosed rfl

/-- An edit of the input is none of the dialog. -/
theorem dialogTurn_edit (s : App) {f : TargetInputState → TargetInputState}
    (hf : ∀ input, (f input).pending = input.pending ∧ (f input).resolving = input.resolving) :
    s.DialogTurn (s.withUi fun ui => { ui with target_input := f ui.target_input }) none := by
  obtain ⟨hpending, hresolving⟩ := hf s.ui.target_input
  refine .stay ?_
  rw [dialogView, dialogView, ← hpending, ← hresolving]
  rfl

/-- A key of the target input submits at most the host that is typed. -/
theorem dialogTurn_handleTargetInputKey (s : App) (key : KeyEvent) (hhelp : s.ui.show_help = false)
    (hinput : s.ui.show_target_input = true) : s.DialogTurn (s.handleTargetInputKey key) (s.submitted key) := by
  have hsubmitted : s.submitted key = if key.code = .Enter then
      (if ¬ (trimChars s.ui.target_input.input = [] ∨ s.ui.target_input.resolving = true) ∧ s.manager_closed = false
        then some (trimChars s.ui.target_input.input) else none) else none := by
    rw [submitted, ← ite_and]
    simp only [hhelp, hinput, true_and]
  obtain ⟨code, control⟩ := key
  rw [hsubmitted]
  cases code with
  | Enter => exact s.dialogTurn_submitTarget
  | Esc => exact .dismiss rfl
  | Char c =>
    refine .ite (.stay rfl) (s.dialogTurn_edit (f := fun input => input.handleChar c) fun input => ?_)
    unfold TargetInputState.handleChar
    split_ifs <;> exact ⟨rfl, rfl⟩
  | Backspace =>
    refine s.dialogTurn_edit fun input => ?_
    unfold TargetInputState.handleBackspace
    split_ifs <;> exact ⟨rfl, rfl⟩
  | Delete =>
    refine s.dialogTurn_edit fun input => ?_
    unfold TargetInputState.handleDelete
    split_ifs <;> exact ⟨rfl, rfl⟩
  | Left =>
    refine s.dialogTurn_edit fun input => ?_
    unfold TargetInputState.moveCursorLeft
    split_ifs <;> exact ⟨rfl, rfl⟩
  | Right =>
    refine s.dialogTurn_edit fun input => ?_
    unfold TargetInputState.moveCursorRight
    split_ifs <;> exact ⟨rfl, rfl⟩
  | _ => exact .stay rfl

/-- A key turns the dialog by what it submits. -/
theorem dialogTurn_handleKey (s : App) (now : ℕ) (key : KeyEvent) :
    s.DialogTurn (s.handleKey now key) (s.submitted key) := by
  -- No overlay but the input submits.
  have hnone (h : s.ui.show_help = true ∨ s.ui.show_target_input = false) : s.submitted key = none := by
    refine if_neg fun hall => ?_
    rcases h with h | h
    · exact Bool.noConfusion (h.symm.trans hall.1)
    · exact Bool.noConfusion (h.symm.trans hall.2.1)
  unfold handleKey
  split_ifs with hhelp hinput
  · rw [hnone (.inl hhelp)]
    exact .stay rfl
  · exact s.dialogTurn_handleTargetInputKey key (Bool.eq_false_of_not_eq_true hhelp) hinput
  all_goals rw [hnone (.inr (Bool.eq_false_of_not_eq_true hinput))]
  · exact s.dialogTurn_handleSettingsKey key
  · exact s.dialogTurn_handleHopDetailKey key
  · exact s.dialogTurn_handleTargetListKey key
  · exact s.dialogTurn_handleMainKey now key

/-! ## The manager and the poll -/

/-- A request is answered once, and a new session is all else that it adds. -/
theorem manage_eq (s : App) (request : AddTargetRequest) (resolved : Except (List Char) IpAddr)
    (refused : Option (List Char)) (config : Config) (now : ℕ) :
    ∃ sessions, s.manage request resolved refused config now =
      { s with
        sessions := sessions
        replies := s.replies.insert request.reply (s.replyTo request resolved refused) } := by
  unfold manage replyTo
  cases resolved with
  | error e => exact ⟨s.sessions, rfl⟩
  | ok ip =>
    dsimp only
    split_ifs
    · exact ⟨s.sessions, rfl⟩
    · cases refused with
      | some e => exact ⟨s.sessions, rfl⟩
      | none => exact ⟨_, rfl⟩

/-- The name in an answer is the host of its request. -/
theorem name_replyTo {request : AddTargetRequest} {resolved : Except (List Char) IpAddr}
    {refused : Option (List Char)} {added : AddedTarget} (h : s.replyTo request resolved refused = .ok added) :
    added.name = request.host := by
  unfold replyTo at h
  cases resolved with
  | error e => cases h
  | ok ip =>
    dsimp only at h
    split_ifs at h
    · cases h
      rfl
    · cases refused <;> cases h
      rfl

/-- A poll leaves the queue and the replies alone, and ends the wait or goes on with it. -/
theorem pollAddTargetResult_dialog (s : App) :
    s.pollAddTargetResult.requests = s.requests ∧ s.pollAddTargetResult.channels = s.channels ∧
      s.pollAddTargetResult.manager_closed = s.manager_closed ∧ s.pollAddTargetResult.replies = s.replies ∧
      ((s.pollAddTargetResult.ui.target_input.pending = s.ui.target_input.pending ∧
          s.pollAddTargetResult.ui.target_input.resolving = s.ui.target_input.resolving ∧
          (s.ui.target_input.pending.isSome → s.answer = none ∧ s.manager_closed = false)) ∨
        (s.pollAddTargetResult.ui.target_input.pending = none ∧
          s.pollAddTargetResult.ui.target_input.resolving = false)) := by
  unfold pollAddTargetResult answer
  cases hpending : s.ui.target_input.pending with
  | none => exact ⟨rfl, rfl, rfl, rfl, .inl ⟨hpending, rfl, nofun⟩⟩
  | some channel =>
    dsimp only
    rw [Option.bind_some]
    cases hreply : s.replies.lookup channel with
    | none =>
      dsimp only
      split_ifs with hclosed
      · exact ⟨rfl, rfl, rfl, rfl, .inr ⟨rfl, rfl⟩⟩
      · exact ⟨rfl, rfl, rfl, rfl, .inl ⟨hpending, rfl, fun _ => ⟨rfl, Bool.eq_false_of_not_eq_true hclosed⟩⟩⟩
    | some reply =>
      cases reply with
      | error msg => exact ⟨rfl, rfl, rfl, rfl, .inr ⟨rfl, rfl⟩⟩
      | ok added =>
        dsimp only
        unfold selectAdded
        dsimp only
        split <;> exact ⟨rfl, rfl, rfl, rfl, .inr ⟨rfl, rfl⟩⟩

/-! ## Every step follows the dialog -/

/-- Where the view of the dialog and the replies are the same, the dialog has gone as far. -/
theorem Follows.congr (h : s.Follows x) (hview : t.dialogView = s.dialogView) (hreplies : t.replies = s.replies) :
    t.Follows x := by
  simp only [dialogView, Prod.mk.injEq] at hview
  obtain ⟨hrequests, hchannels, hclosed, hpending, hresolving⟩ := hview
  constructor
  · rw [hchannels, h.channels]
  · rw [hrequests, hclosed, h.requests]
  · rw [hreplies]
    exact h.replies
  · exact h.names
  · rw [hpending]
    exact h.pending
  · rw [hresolving, hpending, h.resolving]

/-- The UI waits for nothing. -/
theorem Follows.dismiss (h : s.Follows x)
    (hview : t.dialogView = (s.requests, s.channels, s.manager_closed, none, false))
    (hreplies : t.replies = s.replies) : t.Follows x := by
  simp only [dialogView, Prod.mk.injEq] at hview
  obtain ⟨hrequests, hchannels, hclosed, hpending, hresolving⟩ := hview
  constructor
  · rw [hchannels, h.channels]
  · rw [hrequests, hclosed, h.requests]
  · rw [hreplies]
    exact h.replies
  · exact h.names
  · rw [hpending]
    exact nofun
  · rw [hresolving, hpending]
    rfl

/-- A request goes to the end of the queue, under the next number. -/
theorem Follows.submit (h : s.Follows x) {host : List Char} (opened : s.manager_closed = false)
    (hview : t.dialogView = (s.requests ++ [⟨host, s.channels⟩], s.channels + 1, false, some s.channels, true))
    (hreplies : t.replies = s.replies) : t.Follows (x.ask host) := by
  simp only [dialogView, Prod.mk.injEq] at hview
  obtain ⟨hrequests, hchannels, hclosed, hpending, hresolving⟩ := hview
  have hlen : (x.ask host).asked.length = x.asked.length + 1 := List.length_append
  constructor
  · rw [hchannels, h.channels, hlen]
  · rw [hrequests, hclosed, h.requests, opened, x.waiting_ask host, List.map_append, h.channels]
    rfl
  · rw [hreplies]
    exact h.replies
  · intro i added hi
    -- What was asked before stands where it did.
    have hname := h.names i added hi
    rw [Exchange.ask, List.getElem?_append_left (List.getElem?_eq_some_iff.mp hname).1]
    exact hname
  · intro channel hchannel
    obtain rfl := Option.some.inj (hpending.symm.trans hchannel)
    rw [h.channels, hlen]
  · rw [hresolving, hpending]
    rfl

/-- A key takes the dialog on. -/
theorem Follows.handleKey (h : s.Follows x) (now : ℕ) (key : KeyEvent) :
    (s.handleKey now key).Follows (noteDialog x s (.key now key)) := by
  have hreplies : (s.handleKey now key).replies = s.replies := by
    cases s.turn_handleKey now key with
    | stay hview => exact congrArg (fun v => v.2.2.1) hview
    | switch i hview => exact congrArg (fun v => v.2.2.1) hview
    | toggle hview => exact congrArg (fun v => v.2.2.1) hview
    | reset hview => exact congrArg (fun v => v.2.2.1) hview
  rw [noteDialog]
  generalize hsent : s.submitted key = sent
  have hturn := s.dialogTurn_handleKey now key
  rw [hsent] at hturn
  cases hturn with
  | stay hview => exact h.congr hview hreplies
  | dismiss hview => exact h.dismiss hview hreplies
  | submit opened hview => exact h.submit opened hview hreplies

/-- A poll takes it on. -/
theorem Follows.pollAddTargetResult (h : s.Follows x) : s.pollAddTargetResult.Follows x := by
  obtain ⟨hrequests, hchannels, hclosed, hreplies, hwait⟩ := s.pollAddTargetResult_dialog
  rcases hwait with ⟨hpending, hresolving, -⟩ | ⟨hpending, hresolving⟩
  · refine h.congr ?_ hreplies
    rw [dialogView, dialogView, hrequests, hchannels, hclosed, hpending, hresolving]
  · refine h.dismiss ?_ hreplies
    rw [dialogView, hrequests, hchannels, hclosed, hpending, hresolving]

/-- The first request of the queue gets the next answer. -/
theorem Follows.manage (h : s.Follows x) {request : AddTargetRequest} {requests : List AddTargetRequest}
    (queue : s.requests = request :: requests) (resolved : Except (List Char) IpAddr) (refused : Option (List Char))
    (config : Config) (now : ℕ) :
    ({ s with requests := requests }.manage request resolved refused config now).Follows
      (x.answer (s.replyTo request resolved refused)) := by
  obtain ⟨sessions, hmanage⟩ := manage_eq { s with requests := requests } request resolved refused config now
  -- A manager with a queue has not ended, so its queue is what waits.
  have hrequests := h.requests
  rw [queue] at hrequests
  split_ifs at hrequests with hclosed
  obtain ⟨⟨host, channel⟩, rest, hwaiting, hrequest, hrest⟩ := List.map_eq_cons_iff.mp hrequests.symm
  obtain ⟨rfl, hasked, -⟩ := Exchange.of_waiting_eq_cons hwaiting
  subst hrequest hrest
  have hlen : ∀ reply, (x.answer reply).asked.length = x.asked.length := fun reply => by rw [x.asked_answer reply]
  rw [hmanage]
  constructor
  · rw [hlen]
    exact h.channels
  · rw [Exchange.waiting_answer hwaiting]
    exact (if_neg hclosed).symm
  · rw [Exchange.answered_answer hwaiting]
    exact h.replies.insert _
  · intro i added hi
    rw [Exchange.answered_answer hwaiting] at hi
    rw [x.asked_answer]
    rcases lt_or_ge i x.answered.length with hlt | hge
    · rw [List.getElem?_append_left hlt] at hi
      exact h.names i added hi
    · -- The new answer has the number and the name of its request.
      have hlast : i < (x.answered ++ [s.replyTo ⟨host, x.answered.length⟩ resolved refused]).length :=
        (List.getElem?_eq_some_iff.mp hi).1
      rw [List.length_append, List.length_singleton] at hlast
      obtain rfl : i = x.answered.length := le_antisymm (Nat.le_of_lt_succ hlast) hge
      rw [List.getElem?_concat_length] at hi
      rw [hasked, name_replyTo (Option.some.inj hi)]
  · rw [hlen]
    exact h.pending
  · exact h.resolving

/-- Every step does. -/
theorem follows_step {a : Action} (h : s.Follows x) (hstep : s.step a = some t) : t.Follows (noteDialog x s a) := by
  cases (step_cases hstep).2 with
  | key now key => exact h.handleKey now key
  | poll => exact h.pollAddTargetResult
  | @manage request requests queue resolved refused config now =>
    rw [noteDialog, queue]
    exact h.manage queue resolved refused config now
  | close => exact ⟨h.channels, rfl, h.replies, h.names, h.pending, h.resolving⟩
  | trace target running => exact h.congr rfl rfl

/-- At the start the dialog has not begun. -/
theorem follows_start (targets : List IpAddr) (config : IpAddr → Config) (now : ℕ) :
    (start targets config now).Follows .empty where
  channels := rfl
  requests := rfl
  replies := Exchange.slots_empty
  names _ _ h := nomatch h
  pending _ h := nomatch h
  resolving := rfl

/-- **The queue and the replies are the two logs of the dialog** in every run. -/
theorem follows_run {targets : List IpAddr} {config : IpAddr → Config} {now : ℕ} {as : List Action}
    (h : run (recorded noteDialog step) (start targets config now, .empty) as = some (s, x)) : s.Follows x := by
  refine run_induction (fun _ y => y.1.Follows y.2) (follows_start targets config now) ?_ as (s, x) h
  rintro as y a z - hy hstep
  obtain ⟨hnext, hnote⟩ := recorded_eq_some.mp hstep
  rw [hnote]
  exact follows_step hy hnext

/-- **An answer is for the host that was submitted last**, whatever was dismissed before: by then the manager has
answered every request, and what the UI is about to read, an error or a target, is its last answer. A target that it
names is the one that was submitted, and has a session. -/
theorem answer_is_last {targets : List IpAddr} {config : IpAddr → Config} {now : ℕ} {as : List Action}
    (h : run (recorded noteDialog step) (start targets config now, .empty) as = some (s, x))
    {reply : Except (List Char) AddedTarget} (hanswer : s.answer = some reply) :
    s.Follows x ∧ x.answered.length = x.asked.length ∧ x.answered.getLast? = some reply ∧
      ∀ added, reply = .ok added → x.asked.getLast? = some added.name ∧ (s.sessions.lookup added.ip).isSome := by
  have hfollows := follows_run h
  obtain ⟨channel, hpending, hreply⟩ := Option.bind_eq_some_iff.mp hanswer
  have hlast := hfollows.pending channel hpending
  have hslot : x.answered[channel]? = some reply := (hfollows.replies channel).symm.trans hreply
  obtain ⟨hlt, -⟩ := List.getElem?_eq_some_iff.mp hslot
  -- The channel is that of the last request, and no answer is ahead of its request.
  have hlength : x.answered.length = x.asked.length := le_antisymm x.le (hlast ▸ hlt)
  have hchannel : x.answered.length - 1 = channel := by omega
  refine ⟨hfollows, hlength, ?_, ?_⟩
  · rw [List.getLast?_eq_getElem?, hchannel, hslot]
  · rintro added rfl
    have hname := hfollows.names channel added hslot
    have hlinked : s.Linked := by
      refine run_induction (fun _ u => u.Linked) (linked_start targets config now) ?_ as s (run_of_recorded h)
      exact fun _ u a v _ hu hstep => linked_step u a v hu hstep
    refine ⟨?_, hlinked.reply channel added hreply⟩
    rw [List.getLast?_eq_getElem?, ← hlength, hchannel, hname]

/-- A dismissed request, and one after it. -/
def sampleDismissed : List Action :=
  [.key 0 ⟨.Char 'o', false⟩, .key 0 ⟨.Char 'a', false⟩, .key 0 ⟨.Enter, false⟩, .key 0 ⟨.Esc, false⟩,
    .key 0 ⟨.Char 'o', false⟩, .key 0 ⟨.Char 'b', false⟩, .key 0 ⟨.Enter, false⟩,
    .manage (.ok (.V4 ⟨192, 0, 2, 1⟩)) none SessionOp.sampleConfig 0,
    .manage (.ok (.V4 ⟨192, 0, 2, 2⟩)) none SessionOp.sampleConfig 0]

/-- The manager's answer to the second request, and its refusal of another one. -/
theorem answer_is_last_sample :
    (∃ (s : App) (x : Dialog),
      run (recorded noteDialog step) (start [] (fun _ => SessionOp.sampleConfig) 0, .empty) sampleDismissed =
        some (s, x) ∧
        s.answer = some (.ok ⟨.V4 ⟨192, 0, 2, 2⟩, ['b'], false⟩) ∧ x.asked = [['a'], ['b']] ∧
        x.asked.getLast? = some ['b']) ∧
    ∃ (s : App) (x : Dialog),
      run (recorded noteDialog step) (start [] (fun _ => SessionOp.sampleConfig) 0, .empty)
          (sampleDismissed.take 8 ++ [.manage (.error ['?']) none SessionOp.sampleConfig 0]) = some (s, x) ∧
        s.answer = some (.error ['?']) ∧ x.answered.length = 2 ∧ x.answered.getLast? = some (.error ['?']) := by
  constructor
  · have heval : (run (recorded noteDialog step) (start [] (fun _ => SessionOp.sampleConfig) 0, .empty)
        sampleDismissed).any (fun y => decide (y.1.answer = some (.ok ⟨.V4 ⟨192, 0, 2, 2⟩, ['b'], false⟩) ∧
          y.2.asked = [['a'], ['b']])) = true := by decide
    obtain ⟨⟨s, x⟩, hrun, hanswer, hasked⟩ := exists_run _ heval
    exact ⟨s, x, hrun, hanswer, hasked, ((answer_is_last hrun hanswer).2.2.2 _ rfl).1⟩
  · have heval : (run (recorded noteDialog step) (start [] (fun _ => SessionOp.sampleConfig) 0, .empty)
        (sampleDismissed.take 8 ++ [.manage (.error ['?']) none SessionOp.sampleConfig 0])).any
          (fun y => decide (y.1.answer = some (.error ['?']) ∧ y.2.asked.length = 2)) = true := by decide
    obtain ⟨⟨s, x⟩, hrun, hanswer, hasked⟩ := exists_run _ heval
    obtain ⟨-, hlength, hlast, -⟩ := answer_is_last hrun hanswer
    exact ⟨s, x, hrun, hanswer, hlength.trans hasked, hlast⟩

/-! ## A wait ends -/

/-- A poll ends the wait when nothing is queued. -/
theorem Follows.resolving_poll (h : s.Follows x) (hqueue : s.requests = []) :
    s.pollAddTargetResult.ui.target_input.resolving = false := by
  obtain ⟨-, -, -, -, hwait⟩ := s.pollAddTargetResult_dialog
  rcases hwait with ⟨hpending, hresolving, hnone⟩ | ⟨-, hresolving⟩
  · rw [hresolving, h.resolving, Bool.eq_false_iff]
    intro hsome
    obtain ⟨hanswer, hclosed⟩ := hnone hsome
    obtain ⟨channel, hchannel⟩ := Option.isSome_iff_exists.mp hsome
    -- Everything is answered, the last request among it.
    have hwaiting : x.waiting = [] := by
      have hrequests := h.requests
      rw [hqueue, hclosed, if_neg Bool.false_ne_true] at hrequests
      exact List.map_eq_nil_iff.mp hrequests.symm
    have hlt : channel < x.answered.length := by
      rw [Exchange.waiting_eq_nil_iff.mp hwaiting, ← h.pending channel hchannel]
      exact Nat.lt_succ_self channel
    rw [answer, hchannel, Option.bind_some, h.replies channel, List.getElem?_eq_getElem hlt] at hanswer
    cases hanswer
  · exact hresolving

/-- What the manager does with a request. -/
abbrev Outcome := Except (List Char) IpAddr × Option (List Char) × Config × ℕ

/-- The manager's step with an outcome. -/
def Outcome.action (o : Outcome) : Action := .manage o.1 o.2.1 o.2.2.1 o.2.2.2

/-- The manager works off its queue. -/
theorem exists_run_manage (h : s.Follows x) (running : s.cancelled = false) (outcomes : List Outcome)
    (hlen : outcomes.length = s.requests.length) :
    ∃ t y, run step s (outcomes.map Outcome.action) = some t ∧ t.Follows y ∧ t.requests = [] ∧ t.cancelled = false := by
  induction outcomes generalizing s x with
  | nil => exact ⟨s, x, rfl, h, List.eq_nil_of_length_eq_zero hlen.symm, running⟩
  | cons o outcomes ih =>
    obtain ⟨resolved, refused, config, now⟩ := o
    obtain ⟨request, requests, queue⟩ := List.exists_cons_of_length_eq_add_one hlen.symm
    have hopen : s.manager_closed = false := by
      refine Bool.eq_false_of_not_eq_true fun hclosed => ?_
      have hrequests := h.requests
      rw [hclosed, if_pos rfl, queue] at hrequests
      cases hrequests
    have hstep : s.step (.manage resolved refused config now) =
        some ({ s with requests := requests }.manage request resolved refused config now) := by
      unfold step
      rw [running, if_neg Bool.false_ne_true]
      dsimp only
      rw [queue]
      dsimp only
      rw [hopen, if_neg Bool.false_ne_true]
    obtain ⟨sessions, hmanage⟩ := manage_eq { s with requests := requests } request resolved refused config now
    have hnext := h.manage queue resolved refused config now
    rw [queue, List.length_cons, List.length_cons, Nat.add_right_cancel_iff] at hlen
    rw [hmanage] at hstep hnext
    obtain ⟨t, y, hrun, ht, hempty, hrunning⟩ := ih hnext running hlen
    refine ⟨t, y, ?_, ht, hempty, hrunning⟩
    rw [List.map_cons, run_cons, Outcome.action, hstep, Option.bind_some]
    exact hrun

/-- **The dialog waits for an answer no longer than the manager works**: once it has handled the requests that are
queued, whatever comes of each, the next poll ends the wait. -/
theorem resolving_ends {targets : List IpAddr} {config : IpAddr → Config} {now : ℕ} {as : List Action}
    (h : run step (start targets config now) as = some s) (running : s.cancelled = false) (outcomes : List Outcome)
    (hlen : outcomes.length = s.requests.length) :
    ∃ t, run step s (outcomes.map Outcome.action ++ [.poll]) = some t ∧ t.ui.target_input.resolving = false := by
  obtain ⟨x, hrecorded⟩ : ∃ x, run (recorded noteDialog step) (start targets config now, .empty) as = some (s, x) :=
    exists_run_recorded h Exchange.empty
  obtain ⟨t, y, hrun, hfollows, hempty, hrunning⟩ := exists_run_manage (follows_run hrecorded) running outcomes hlen
  refine ⟨t.pollAddTargetResult, run_trans hrun ?_, hfollows.resolving_poll hempty⟩
  rw [run_cons, step, hrunning, if_neg Bool.false_ne_true, Option.bind_some, run_nil]

/-- Two requests are queued, and neither host is found. -/
theorem resolving_ends_sample : ∃ s t : App,
    run step (start [] (fun _ => SessionOp.sampleConfig) 0) (sampleDismissed.take 7) = some s ∧
      s.ui.target_input.resolving = true ∧
      run step s ([(.error [], none, SessionOp.sampleConfig, 0), (.error [], none, SessionOp.sampleConfig, 0)].map
        Outcome.action ++ [.poll]) = some t ∧ t.ui.target_input.resolving = false := by
  have heval : (run step (start [] (fun _ => SessionOp.sampleConfig) 0) (sampleDismissed.take 7)).any
      (fun s => decide (s.ui.target_input.resolving = true ∧ s.cancelled = false ∧ s.requests.length = 2)) = true := by
    decide
  obtain ⟨s, hrun, hresolving, hrunning, hqueue⟩ := exists_run _ heval
  obtain ⟨t, ht, hended⟩ := resolving_ends hrun hrunning
    [(.error [], none, SessionOp.sampleConfig, 0), (.error [], none, SessionOp.sampleConfig, 0)] hqueue.symm
  exact ⟨s, t, hrun, hresolving, ht, hended⟩

/-! ## Targets and sessions -/

/-- The target that an answer adds. -/
def newTarget : Except (List Char) AddedTarget → Option IpAddr
  | .ok added => if added.existed then none else some added.ip
  | .error _ => none

/-- The targets that were added, in their order. -/
def newTargets (x : Dialog) : List IpAddr := x.answered.filterMap newTarget

/-- There is a session for each initial target and each target that was added. No target is added twice, and the UI
shows the initial targets and some of the others after them, each once. -/
structure Rotation (initial : List IpAddr) (s : App) (x : Dialog) : Prop where
  sessions : ∀ a, (s.sessions.lookup a).isSome ↔ a ∈ initial ++ newTargets x
  nodup : initial.Nodup → (initial ++ newTargets x).Nodup
  shown : initial <+: s.targets
  distinct : initial.Nodup → s.targets.Nodup
  targets : ∀ a ∈ s.targets, a ∈ initial ++ newTargets x
  answers : ∀ added, .ok added ∈ x.answered → added.ip ∈ initial ++ newTargets x

variable {initial : List IpAddr}

/-- What neither adds nor shows a target. -/
theorem Rotation.congr (h : Rotation initial s x) {y : Dialog} (htargets : t.targets = s.targets)
    (hsessions : ∀ a, (t.sessions.lookup a).isSome ↔ (s.sessions.lookup a).isSome)
    (hanswered : y.answered = x.answered) : Rotation initial t y := by
  have hnew : newTargets y = newTargets x := by
    rw [newTargets, hanswered, newTargets]
  constructor
  · intro a
    rw [hsessions, hnew, h.sessions]
  · rw [hnew]
    exact h.nodup
  · rw [htargets]
    exact h.shown
  · rw [htargets]
    exact h.distinct
  · rw [htargets, hnew]
    exact h.targets
  · rw [hanswered, hnew]
    exact h.answers

/-- A key adds no target and no session. -/
theorem frame_handleKey (s : App) (now : ℕ) (key : KeyEvent) :
    (s.handleKey now key).targets = s.targets ∧
      ∀ a, ((s.handleKey now key).sessions.lookup a).isSome ↔ (s.sessions.lookup a).isSome := by
  have hview {u : App} (h : (s.handleKey now key).view = u.view) (htargets : u.targets = s.targets)
      (hsessions : ∀ a, (u.sessions.lookup a).isSome ↔ (s.sessions.lookup a).isSome) :
      (s.handleKey now key).targets = s.targets ∧
        ∀ a, ((s.handleKey now key).sessions.lookup a).isSome ↔ (s.sessions.lookup a).isSome := by
    simp only [view, Prod.mk.injEq] at h
    obtain ⟨ht, hs, -, -, -⟩ := h
    exact ⟨ht.trans htargets, fun a => by rw [hs, hsessions]⟩
  cases s.turn_handleKey now key with
  | stay h => exact hview h rfl fun _ => Iff.rfl
  | switch i h => exact hview h rfl fun _ => Iff.rfl
  | toggle h => exact hview h rfl fun a => isSome_lookup_modify _ _ _ _
  | reset h => exact hview h rfl fun a => isSome_lookup_modify _ _ _ _

/-- A key answers nothing. -/
theorem answered_noteDialog_key (x : Dialog) (s : App) (now : ℕ) (key : KeyEvent) :
    (noteDialog x s (.key now key)).answered = x.answered := by
  rw [noteDialog]
  cases s.submitted key <;> rfl

/-- An added target is put behind the targets, when it is none of them. -/
theorem targets_selectAdded (s : App) (added : AddedTarget) :
    (s.selectAdded added).targets = if added.ip ∈ s.targets then s.targets else s.targets ++ [added.ip] := by
  unfold selectAdded
  dsimp only
  split <;> rfl

/-- The target of an answer is shown after the others. -/
theorem Rotation.pollAddTargetResult (h : Rotation initial s x) (hfollows : s.Follows x) :
    Rotation initial s.pollAddTargetResult x := by
  rcases s.pollAddTargetResult_cases with ⟨hview, -⟩ | ⟨added, hanswer, hadded⟩
  · simp only [view, Prod.mk.injEq] at hview
    obtain ⟨htargets, hsessions, -, -, -⟩ := hview
    exact h.congr htargets (fun a => by rw [hsessions]) rfl
  · obtain ⟨channel, hpending, hreply⟩ := Option.bind_eq_some_iff.mp hanswer
    have hpoll : s.pollAddTargetResult = s.selectAdded added := by
      rw [App.pollAddTargetResult, hpending]
      dsimp only
      rw [hreply]
    have hmem : .ok added ∈ x.answered := List.mem_of_getElem? ((hfollows.replies channel).symm.trans hreply)
    have htargets := s.targets_selectAdded added
    rw [← hpoll] at htargets
    by_cases hshown : added.ip ∈ s.targets
    · rw [if_pos hshown] at htargets
      exact h.congr htargets (fun a => by rw [hadded.sessions]) rfl
    · rw [if_neg hshown] at htargets
      constructor
      · intro a
        rw [hadded.sessions, h.sessions]
      · exact h.nodup
      · rw [htargets]
        exact h.shown.trans (List.prefix_append _ _)
      · intro hinitial
        rw [htargets, List.nodup_append]
        refine ⟨h.distinct hinitial, List.nodup_singleton _, fun a ha b hb heq => hshown ?_⟩
        rw [← List.mem_singleton.mp hb, ← heq]
        exact ha
      · intro a ha
        rcases hadded.targets a ha with hmem' | rfl
        · exact h.targets a hmem'
        · exact h.answers added hmem
      · exact h.answers

/-- The manager adds a session where it answers with a new target, and that one had none. -/
theorem sessions_manage (s : App) (request : AddTargetRequest) (resolved : Except (List Char) IpAddr)
    (refused : Option (List Char)) (config : Config) (now : ℕ) :
    (∀ a, ((s.manage request resolved refused config now).sessions.lookup a).isSome ↔
        (s.sessions.lookup a).isSome ∨ newTarget (s.replyTo request resolved refused) = some a) ∧
      (∀ a, newTarget (s.replyTo request resolved refused) = some a → s.sessions.lookup a = none) ∧
      ∀ added, s.replyTo request resolved refused = .ok added →
        (s.sessions.lookup added.ip).isSome ∨ newTarget (s.replyTo request resolved refused) = some added.ip := by
  unfold App.manage replyTo
  cases resolved with
  | error e => exact ⟨fun a => ⟨.inl, fun h => h.elim id nofun⟩, nofun, nofun⟩
  | ok ip =>
    dsimp only
    split_ifs with hip
    · refine ⟨fun a => ⟨.inl, fun h => h.elim id nofun⟩, nofun, fun added hadded => ?_⟩
      cases hadded
      exact .inl hip
    · cases refused with
      | some e => exact ⟨fun a => ⟨.inl, fun h => h.elim id nofun⟩, nofun, nofun⟩
      | none =>
        refine ⟨fun a => ?_, fun a ha => ?_, fun added hadded => ?_⟩
        · dsimp only
          rw [KeyMap.lookup_insert]
          by_cases ha : a = ip
          · rw [if_pos ha, ha]
            exact ⟨fun _ => .inr rfl, fun _ => rfl⟩
          · rw [if_neg ha]
            exact ⟨.inl, fun h => h.elim id fun hnew => absurd (Option.some.inj hnew).symm ha⟩
        · cases ha
          exact Option.not_isSome_iff_eq_none.mp hip
        · cases hadded
          exact .inr rfl

/-- An answer adds its target behind those that were added. -/
theorem newTargets_answer {r : List Char × ℕ} {rest : List (List Char × ℕ)} (h : x.waiting = r :: rest)
    (reply : Except (List Char) AddedTarget) :
    newTargets (x.answer reply) = newTargets x ++ (newTarget reply).toList := by
  rw [newTargets, Exchange.answered_answer h, List.filterMap_append, newTargets]
  cases hnew : newTarget reply <;> simp [hnew]

/-- The manager's answer keeps the rotation. -/
theorem Rotation.manage (h : Rotation initial s x) (hfollows : s.Follows x) {request : AddTargetRequest}
    {requests : List AddTargetRequest} (queue : s.requests = request :: requests)
    (resolved : Except (List Char) IpAddr) (refused : Option (List Char)) (config : Config) (now : ℕ) :
    Rotation initial ({ s with requests := requests }.manage request resolved refused config now)
      (x.answer (s.replyTo request resolved refused)) := by
  have htargets := (frame_manage { s with requests := requests } request resolved refused config now).1
  obtain ⟨hsessions, hfresh, hreply⟩ :=
    sessions_manage { s with requests := requests } request resolved refused config now
  have hrequests := hfollows.requests
  rw [queue] at hrequests
  split_ifs at hrequests
  obtain ⟨r, rest, hwaiting, -, -⟩ := List.map_eq_cons_iff.mp hrequests.symm
  have hnew := newTargets_answer hwaiting (s.replyTo request resolved refused)
  -- What was there stays, and the new target comes last.
  have hmem (a : IpAddr) : a ∈ initial ++ newTargets (x.answer (s.replyTo request resolved refused)) ↔
      a ∈ initial ++ newTargets x ∨ newTarget (s.replyTo request resolved refused) = some a := by
    rw [hnew, ← List.append_assoc, List.mem_append, Option.mem_toList]
  constructor
  · intro a
    rw [hsessions, hmem, ← h.sessions]
    rfl
  · intro hinitial
    rw [hnew, ← List.append_assoc, List.nodup_append]
    refine ⟨h.nodup hinitial, Option.toList_nodup _, fun a ha b hb heq => ?_⟩
    have hnone := hfresh b (Option.mem_toList.mp hb)
    have hsome := (h.sessions a).mpr ha
    rw [heq] at hsome
    exact absurd hnone (Option.isSome_iff_ne_none.mp hsome)
  · rw [htargets]
    exact h.shown
  · rw [htargets]
    exact h.distinct
  · intro a ha
    rw [htargets] at ha
    exact (hmem a).mpr (.inl (h.targets a ha))
  · intro added hadded
    rw [Exchange.answered_answer hwaiting, List.mem_append, List.mem_singleton] at hadded
    rcases hadded with hold | hlast
    · exact (hmem _).mpr (.inl (h.answers added hold))
    · exact (hmem _).mpr ((hreply added hlast.symm).imp_left (h.sessions added.ip).mp)

/-- Every step keeps it. -/
theorem rotation_step {a : Action} (h : Rotation initial s x) (hfollows : s.Follows x) (hstep : s.step a = some t) :
    Rotation initial t (noteDialog x s a) := by
  cases (step_cases hstep).2 with
  | key now key =>
    obtain ⟨htargets, hsessions⟩ := s.frame_handleKey now key
    exact h.congr htargets hsessions (answered_noteDialog_key x s now key)
  | poll => exact h.pollAddTargetResult hfollows
  | @manage request requests queue resolved refused config now =>
    rw [noteDialog, queue]
    exact h.manage hfollows queue resolved refused config now
  | close => exact h.congr rfl (fun _ => Iff.rfl) rfl
  | trace target running => exact h.congr rfl (fun a => isSome_lookup_modify _ _ _ _) rfl

/-- At the start there are the initial targets. -/
theorem rotation_start (targets : List IpAddr) (config : IpAddr → Config) (now : ℕ) :
    Rotation targets (start targets config now) .empty := by
  have hnew : targets ++ newTargets Exchange.empty = targets := List.append_nil targets
  constructor
  · intro a
    rw [hnew, start, lookup_foldl_insert]
    by_cases ha : a ∈ targets
    · rw [if_pos ha]
      exact ⟨fun _ => ha, fun _ => rfl⟩
    · rw [if_neg ha]
      exact ⟨nofun, fun h => absurd h ha⟩
  · rw [hnew]
    exact id
  · exact List.prefix_rfl
  · exact id
  · rw [hnew]
    exact fun _ ha => ha
  · exact nofun

/-- The rotation is kept in every state of a run. -/
theorem rotation_run {targets : List IpAddr} {config : IpAddr → Config} {now : ℕ} {as : List Action}
    (h : run (recorded noteDialog step) (start targets config now, .empty) as = some (s, x)) :
    Rotation targets s x := by
  refine (run_induction (fun _ y => y.1.Follows y.2 ∧ Rotation targets y.1 y.2)
    ⟨follows_start targets config now, rotation_start targets config now⟩ ?_ as (s, x) h).2
  rintro as y a z - ⟨hfollows, hy⟩ hstep
  obtain ⟨hnext, hnote⟩ := recorded_eq_some.mp hstep
  rw [hnote]
  exact ⟨follows_step hfollows hnext, rotation_step hy hfollows hnext⟩

/-- **A target is added once**: the sessions of every state are those of the initial targets and of the targets that
were added, none of them twice, and the UI shows the initial ones and some of the others behind them, each once. -/
theorem targets_added_once {targets : List IpAddr} {config : IpAddr → Config} {now : ℕ} {as : List Action}
    (hinitial : targets.Nodup)
    (h : run (recorded noteDialog step) (start targets config now, .empty) as = some (s, x)) :
    (∀ a, (s.sessions.lookup a).isSome ↔ a ∈ targets ++ newTargets x) ∧ (targets ++ newTargets x).Nodup ∧
      targets <+: s.targets ∧ s.targets.Nodup ∧ s.targets ⊆ targets ++ newTargets x := by
  have hrotation := rotation_run h
  exact ⟨hrotation.sessions, hrotation.nodup hinitial, hrotation.shown, hrotation.distinct hinitial, hrotation.targets⟩

/-- Two targets are added to one, and the last of them is shown. -/
theorem targets_added_once_sample : ∃ (s : App) (x : Dialog),
    run (recorded noteDialog step) (start [.V4 ⟨192, 0, 2, 3⟩] (fun _ => SessionOp.sampleConfig) 0, .empty)
        (sampleDismissed ++ [.poll]) = some (s, x) ∧
      s.targets = [.V4 ⟨192, 0, 2, 3⟩, .V4 ⟨192, 0, 2, 2⟩] ∧
      newTargets x = [.V4 ⟨192, 0, 2, 1⟩, .V4 ⟨192, 0, 2, 2⟩] ∧ s.targets.Nodup := by
  have heval : (run (recorded noteDialog step) (start [.V4 ⟨192, 0, 2, 3⟩] (fun _ => SessionOp.sampleConfig) 0, .empty)
      (sampleDismissed ++ [.poll])).any (fun y => decide (y.1.targets = [.V4 ⟨192, 0, 2, 3⟩, .V4 ⟨192, 0, 2, 2⟩] ∧
        newTargets y.2 = [.V4 ⟨192, 0, 2, 1⟩, .V4 ⟨192, 0, 2, 2⟩])) = true := by decide
  obtain ⟨⟨s, x⟩, hrun, htargets, hnew⟩ := exists_run _ heval
  exact ⟨s, x, hrun, htargets, hnew, (targets_added_once (List.nodup_singleton _) hrun).2.2.2.1⟩

end App

end Ttl
