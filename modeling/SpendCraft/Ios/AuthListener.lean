import SpendCraft.Lib.KeyedListener
import SpendCraft.Lib.KotlinText
import SpendCraft.Lib.Machine
import Mathlib.Tactic.SplitIfs

/-!
# Who the iOS App Shows as Signed In

The view model takes the signed-in user from a listener of `FirebaseAuth` and writes it itself
only when the user signs out. `Auth` posts a notification to the main queue when the access token
is another one than the last time. The listener that the app adds is called for it only where the
user's id has changed, and it sees the user as he is by then: his name and whether his address is
verified may have changed since.

Saving the user to the keychain does not fail. The answers of the service, and when the main
queue runs, are free.

## Conventions

The queue is the number of posted notifications, since they carry nothing. A sign-in, a
registration, a refresh and an expiry are one function, `updateCurrentUser`, with any user and any
token; a commit of changes sets a name, and its answer may bring another token. The text that is
shown for a user without a name is the part of the address before the sign `@`. `signOut` is the
one place where the view model writes the user itself, at once.

## Proof

The world is an instance of `Lib.KeyedListener`: the source is the session, the key the id of the
user, and the view what is shown (`abs`). Each event is one of the general listener (`abs_step`),
so what is shown once the queue is empty is known from the library, and so is the condition on a
step. That the flag says whether a user is shown is an invariant by itself (`Flagged`).
`registration` is a run of four events in which the name that was entered comes too late.

## Main results

* `abs_step`: the view model and `Auth` are a listener that skips known keys.
* `shows_session_iff`: the runs in which the app shows who is signed in.
* `drain_registration`: the name that is entered at a registration is not shown.
-/

namespace SpendCraft.Ios

open Kotlin Machine

/-- A `User` of `FirebaseAuth`. -/
structure FirebaseUser where
  uid : Text
  email : Option Text
  displayName : Option Text
  isEmailVerified : Bool
  accessToken : Text
  deriving DecidableEq, Repr

/-- What the app knows of a user. -/
structure UserModel where
  id : Text
  email : Text
  displayName : Text
  isEmailVerified : Bool
  deriving DecidableEq, Repr

namespace AuthViewModel

/-- `UserModel(from:)`: without a display name, the part of the address before the `@` is shown.
-/
def userModel (user : FirebaseUser) : UserModel :=
  { id := user.uid
    email := user.email.getD []
    displayName := user.displayName.getD
      ((user.email.map fun email => email.takeWhile (· ≠ '@')).getD "Kullanıcı".toList)
    isEmailVerified := user.isEmailVerified }

end AuthViewModel

/-- `Auth`, the view model with its listener, and the main queue between them. -/
structure AuthWorld where
  /-- `_currentUser` of `Auth`. -/
  session : Option FirebaseUser
  lastNotifiedUserToken : Option Text
  /-- The notifications that wait in the main queue. -/
  posted : ℕ
  firstInvocation : Bool
  previousUserID : Option Text
  currentUser : Option UserModel
  isAuthenticated : Bool
  deriving DecidableEq, Repr

namespace AuthWorld

/-- The app is launched with the user of the keychain. Adding the listener queues its first
call. -/
def launch (session : Option FirebaseUser) : AuthWorld :=
  { session := session
    lastNotifiedUserToken := session.map FirebaseUser.accessToken
    posted := 1
    firstInvocation := true
    previousUserID := none
    currentUser := none
    isAuthenticated := false }

/-- `possiblyPostAuthStateChangeNotification`: the notification is posted if the token is another
one than last time. -/
def possiblyPostAuthStateChangeNotification (world : AuthWorld) : AuthWorld :=
  let token := world.session.map FirebaseUser.accessToken
  if world.lastNotifiedUserToken = token then world
  else { world with lastNotifiedUserToken := token, posted := world.posted + 1 }

/-- The session after a sign-in, a registration, a refresh, or an expiry. -/
def updateCurrentUser (user : Option FirebaseUser) (world : AuthWorld) : AuthWorld :=
  { world with session := user }.possiblyPostAuthStateChangeNotification

/-- The name of a profile was changed. The answer may bring another token. -/
def commitChanges (uid displayName token : Text) (world : AuthWorld) : AuthWorld :=
  match world.session with
  | some user =>
      if user.uid = uid then
        world.updateCurrentUser (some
          { user with displayName := some displayName, accessToken := token })
      else world
  | none => world

/-- `signOut` of the view model. -/
def signOut (world : AuthWorld) : AuthWorld :=
  { world.updateCurrentUser none with currentUser := none, isAuthenticated := false }

/-- The listener of the app. -/
def present (user : Option FirebaseUser) (world : AuthWorld) : AuthWorld :=
  match user with
  | some user =>
      { world with currentUser := some (AuthViewModel.userModel user), isAuthenticated := true }
  | none => { world with currentUser := none, isAuthenticated := false }

/-- What `addStateDidChangeListener` makes of it. -/
def listen (world : AuthWorld) : AuthWorld :=
  let uid := world.session.map FirebaseUser.uid
  let shouldCallListener := world.firstInvocation || decide (world.previousUserID ≠ uid)
  let told := { world with firstInvocation := false, previousUserID := uid }
  if shouldCallListener then told.present world.session else told

/-- The main queue runs the first of its notifications. -/
def deliver (world : AuthWorld) : AuthWorld :=
  match world.posted with
  | 0 => world
  | posted + 1 => { world.listen with posted := posted }

/-- The main queue runs them all. -/
def drain (world : AuthWorld) : AuthWorld :=
  deliver^[world.posted] world

/-- What happens to the session: it changes by a sign-in or a sign-out, a profile is committed, or
a posted notification is delivered. -/
inductive Event
  | updateCurrentUser (user : Option FirebaseUser)
  | commitChanges (uid displayName token : Text)
  | signOut
  | deliver

/-- One event. -/
def step (world : AuthWorld) : Event → AuthWorld
  | .updateCurrentUser user => world.updateCurrentUser user
  | .commitChanges uid displayName token => world.commitChanges uid displayName token
  | .signOut => world.signOut
  | .deliver => world.deliver

/-- The app shows who is signed in. -/
def ShowsSession (world : AuthWorld) : Prop :=
  world.currentUser = world.session.map AuthViewModel.userModel ∧
    world.isAuthenticated = world.session.isSome

/-- Where no notification is to come, or one that is skipped, the user is shown already. -/
def Tells (world : AuthWorld) (user : Option FirebaseUser) : Prop :=
  world.posted = 0 ∧ world.lastNotifiedUserToken = user.map FirebaseUser.accessToken ∨
      (world.firstInvocation = false ∧ world.previousUserID = user.map FirebaseUser.uid) →
    world.currentUser = user.map AuthViewModel.userModel

/-- No step changes what is to be shown without a notification, or of a user whose id the listener
knows. -/
def Allowed (world : AuthWorld) : Event → Prop
  | .updateCurrentUser user => world.Tells user
  | .commitChanges uid displayName token => ∀ user, world.session = some user → user.uid = uid →
      world.Tells (some { user with displayName := some displayName, accessToken := token })
  | _ => True

/-! ### The listener behind it -/

/-- The flag says whether a user is shown. -/
def Flagged (world : AuthWorld) : Prop :=
  world.isAuthenticated = world.currentUser.isSome

/-- The listener that skips known ids. -/
def abs (world : AuthWorld) :
    KeyedListener (Option FirebaseUser) (Option Text) (Option UserModel) where
  source := world.session
  posted := world.posted
  previous := if world.firstInvocation then none else some world.previousUserID
  shown := world.currentUser

/-- The event of the general listener that an event stands for: whether it is heard is decided by
the token. -/
def absEvent (world : AuthWorld) :
    Event → KeyedListener.Event (Option FirebaseUser) (Option UserModel)
  | .updateCurrentUser user =>
      .change user (decide (world.lastNotifiedUserToken ≠ user.map FirebaseUser.accessToken))
  | .commitChanges uid displayName token =>
      match world.session with
      | some user =>
          if user.uid = uid then
            .change (some { user with displayName := some displayName, accessToken := token })
              (decide (world.lastNotifiedUserToken ≠ some token))
          else .change world.session false
      | none => .change none false
  | .signOut => .overwrite none (decide (world.lastNotifiedUserToken ≠ none)) none
  | .deliver => .deliver

/-- What the listener compares. -/
def key (session : Option FirebaseUser) : Option Text := session.map FirebaseUser.uid

/-- What is to be shown. -/
def view (session : Option FirebaseUser) : Option UserModel := session.map AuthViewModel.userModel

variable {world : AuthWorld}

/-- A change of the user is a change of the key. -/
theorem abs_updateCurrentUser (user : Option FirebaseUser) :
    (world.updateCurrentUser user).abs = KeyedListener.step key view world.abs
      (.change user
        (decide (world.lastNotifiedUserToken ≠ user.map FirebaseUser.accessToken))) := by
  by_cases h : world.lastNotifiedUserToken = user.map FirebaseUser.accessToken
  · simp [updateCurrentUser, possiblyPostAuthStateChangeNotification, KeyedListener.step, abs, h]
  · simp [updateCurrentUser, possiblyPostAuthStateChangeNotification, KeyedListener.step, abs, h]

/-- The listener of the app is the general one. -/
theorem abs_listen : world.listen.abs = world.abs.look key view := by
  rcases world with ⟨session, token, posted, first, previous, current, authenticated⟩
  cases first with
  | true => cases session <;> simp [listen, present, abs, KeyedListener.look, key, view]
  | false =>
      by_cases h : previous = session.map FirebaseUser.uid
      · simp [listen, abs, KeyedListener.look, key, h]
      · cases session <;> simp_all [listen, present, abs, KeyedListener.look, key, view]

/-- A delivery of the app is a delivery of the general listener. -/
theorem abs_deliver : world.deliver.abs = world.abs.deliver key view := by
  cases h : world.posted with
  | zero => simp [deliver, KeyedListener.deliver, h, abs]
  | succ n =>
      have hposted : world.abs.posted = n + 1 := h
      rw [deliver, h, KeyedListener.deliver, hposted]
      exact congrArg (fun l => { l with posted := n }) abs_listen

/-- A sign-out is a change that is shown at once. -/
theorem abs_signOut : world.signOut.abs = KeyedListener.step key view world.abs
    (.overwrite none (decide (world.lastNotifiedUserToken ≠ none)) none) := by
  by_cases h : world.lastNotifiedUserToken = none
  · simp [signOut, updateCurrentUser, possiblyPostAuthStateChangeNotification,
      KeyedListener.step, abs, h]
  · simp [signOut, updateCurrentUser, possiblyPostAuthStateChangeNotification,
      KeyedListener.step, abs, h]

/-- The view model, `Auth` and the queue are a listener that skips known keys. -/
theorem abs_step (world : AuthWorld) (event : Event) :
    (world.step event).abs = world.abs.step key view (world.absEvent event) := by
  cases event with
  | updateCurrentUser user => exact abs_updateCurrentUser user
  | commitChanges uid displayName token =>
      cases hsession : world.session with
      | none =>
          simp [step, commitChanges, absEvent, KeyedListener.step, abs, hsession]
      | some user =>
          by_cases huid : user.uid = uid
          · simpa [step, commitChanges, absEvent, hsession, huid] using
              @abs_updateCurrentUser world
                (some { user with displayName := some displayName, accessToken := token })
          · simp [step, commitChanges, absEvent, KeyedListener.step, abs, hsession, huid]
  | signOut => exact abs_signOut
  | deliver => exact abs_deliver

/-- Emptying the queue is emptying that of the general listener. -/
theorem abs_drain : world.drain.abs = world.abs.drain key view := by
  have hiterate : ∀ (n : ℕ) (w : AuthWorld),
      (deliver^[n] w).abs = (KeyedListener.deliver key view)^[n] w.abs := by
    intro n
    induction n with
    | zero => exact fun _ => rfl
    | succ n ih =>
        intro w
        rw [Function.iterate_succ_apply, Function.iterate_succ_apply, ih, abs_deliver]
  exact hiterate world.posted world

/-- A new user is notified of, so the flags stay right. -/
theorem flagged_updateCurrentUser (h : world.Flagged) (user : Option FirebaseUser) :
    (world.updateCurrentUser user).Flagged := by
  simp only [updateCurrentUser, possiblyPostAuthStateChangeNotification]
  split_ifs
  · exact h
  · exact h

/-- A delivery posts nothing. -/
theorem flagged_deliver (h : world.Flagged) : world.deliver.Flagged := by
  have hpresent : ∀ (w : AuthWorld) (user : Option FirebaseUser), (w.present user).Flagged := by
    rintro w (_ | user)
    · rfl
    · rfl
  simp only [deliver, listen]
  split
  · exact h
  · split_ifs
    · exact hpresent _ world.session
    · exact h

/-- **Step lemma:** a notification is queued whenever it must be. -/
theorem flagged_step (h : world.Flagged) (event : Event) : (world.step event).Flagged := by
  cases event with
  | updateCurrentUser user => exact flagged_updateCurrentUser h user
  | commitChanges uid displayName token =>
      simp only [step, commitChanges]
      split
      · split_ifs
        · exact flagged_updateCurrentUser h _
        · exact h
      · exact h
  | signOut => exact rfl
  | deliver => exact flagged_deliver h

/-- With an empty queue, what is shown is right exactly if the listener is up to date. -/
theorem showsSession_drain_iff (h : world.Flagged) :
    world.drain.ShowsSession ↔ world.abs.UpToDate key view := by
  have hflagged : world.drain.Flagged := Function.Iterate.rec (fun w : AuthWorld => w.Flagged)
    h (fun _ hw => flagged_deliver hw) world.posted
  have hsource : world.drain.session = world.session := by
    have hiterate : ∀ n, (deliver^[n] world).session = world.session := by
      intro n
      refine Function.Iterate.rec (fun w : AuthWorld => w.session = world.session) rfl ?_ n
      intro w hw
      rw [← hw]
      exact (congrArg KeyedListener.source (@abs_deliver w)).trans
        KeyedListener.source_deliver
    exact hiterate world.posted
  have hshown : world.drain.currentUser = (world.abs.drain key view).shown := by
    rw [← abs_drain]
    rfl
  rw [ShowsSession, hflagged, KeyedListener.UpToDate, ← hshown, hsource]
  refine and_iff_left_of_imp ?_
  intro hcurrent
  rw [hcurrent, Option.isSome_map]

/-- A change of the user is allowed exactly if it tells the listener what it needs. -/
theorem tells_iff (world : AuthWorld) (user : Option FirebaseUser) :
    world.abs.Allowed key view (.change user
      (decide (world.lastNotifiedUserToken ≠ user.map FirebaseUser.accessToken))) ↔
    world.Tells user := by
  have hposted : world.posted +
      (decide (world.lastNotifiedUserToken ≠ user.map FirebaseUser.accessToken)).toNat = 0 ↔
      world.posted = 0 ∧ world.lastNotifiedUserToken = user.map FirebaseUser.accessToken := by
    simp [Bool.toNat_eq_zero]
  have hprevious : (if world.firstInvocation then none else some world.previousUserID) =
      some (key user) ↔
      world.firstInvocation = false ∧ world.previousUserID = user.map FirebaseUser.uid := by
    cases world.firstInvocation <;> simp [key]
  exact imp_congr_left (or_congr hposted hprevious)

/-- The same for every event. -/
theorem allowed_iff (event : Event) (h : world.abs.UpToDate key view) :
    world.abs.Allowed key view (world.absEvent event) ↔ world.Allowed event := by
  -- A session that stays as it is keeps what the listener will show.
  have hsame : world.abs.Allowed key view (.change world.session false) :=
    (KeyedListener.upToDate_step_iff h (.change world.session false)).mp h
  cases event with
  | updateCurrentUser user => exact tells_iff world user
  | commitChanges uid displayName token =>
      cases hsession : world.session with
      | none => simpa [absEvent, Allowed, hsession] using hsession ▸ hsame
      | some user =>
          by_cases huid : user.uid = uid
          · simpa [absEvent, Allowed, hsession, huid] using tells_iff world
              (some { user with displayName := some displayName, accessToken := token })
          · simpa [absEvent, Allowed, hsession, huid] using hsession ▸ hsame
  | signOut => exact iff_of_true (fun _ => rfl) trivial
  | deliver => exact Iff.rfl

/-- At every point of a run the app shows who is signed in once the main queue has run, just when
no step changes what is to be shown without a notification, or of a user whose id the listener
knows. -/
theorem shows_session_iff (session : Option FirebaseUser) (events : List Event) :
    (∀ pre, pre <+: events → (run step (launch session) pre).drain.ShowsSession) ↔
      AllSteps step Allowed (launch session) events := by
  have hflagged : ∀ pre, (run step (launch session) pre).Flagged :=
    run_invariant_of_step (I := Flagged) (fun _ event h => flagged_step h event)
      (show (launch session).Flagged from rfl)
  simp only [showsSession_drain_iff (hflagged _)]
  refine forall_prefix_iff_of_step (I := fun w : AuthWorld => w.abs.UpToDate key view) ?_ ?_ events
  · intro world event h
    rw [abs_step, KeyedListener.upToDate_step_iff h, allowed_iff event h]
  · rw [KeyedListener.upToDate_iff]
    simp [launch, abs]

/-- The first listener call of a launch, a registration with its notification, and then the commit
of the name that was entered. -/
def registration (user : FirebaseUser) (name token : Text) : List Event :=
  [.deliver, .updateCurrentUser (some user), .deliver, .commitChanges user.uid name token]

/-- **A registration**: the listener knows the id of the new user when the name is committed, so
that it is not called for the commit, and the user is shown as he was before. -/
theorem drain_registration (user : FirebaseUser) (name token : Text) :
    let world := (run step (launch none) (registration user name token)).drain
    world.session = some { user with displayName := some name, accessToken := token } ∧
      world.currentUser = some (AuthViewModel.userModel user) := by
  have hbefore : run step (launch none)
      [.deliver, .updateCurrentUser (some user), .deliver] =
        { session := some user
          lastNotifiedUserToken := some user.accessToken
          posted := 0
          firstInvocation := false
          previousUserID := some user.uid
          currentUser := some (AuthViewModel.userModel user)
          isAuthenticated := true } := rfl
  have hrun : run step (launch none) (registration user name token) =
      (run step (launch none) [.deliver, .updateCurrentUser (some user), .deliver]).commitChanges
        user.uid name token := rfl
  rw [hrun, hbefore]
  by_cases htoken : user.accessToken = token
  · simp [commitChanges, updateCurrentUser, possiblyPostAuthStateChangeNotification, htoken, drain]
  · simp [commitChanges, updateCurrentUser, possiblyPostAuthStateChangeNotification, htoken, drain,
      deliver, listen]

/-- Another name than the part of the address before its sign is not shown. -/
theorem not_showsSession_registration {user : FirebaseUser} {name : Text} (token : Text)
    (hname : (AuthViewModel.userModel user).displayName ≠ name) :
    ¬(run step (launch none) (registration user name token)).drain.ShowsSession := by
  obtain ⟨hsession, hcurrent⟩ := drain_registration user name token
  rintro ⟨hshown, -⟩
  rw [hcurrent, hsession, Option.map_some, Option.some_inj] at hshown
  exact hname (congrArg UserModel.displayName hshown)

end AuthWorld

end SpendCraft.Ios
