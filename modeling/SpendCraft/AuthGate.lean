import SpendCraft.Auth

/-!
# The Login Screens and the App

`MainActivity` shows the login screens while its view model is `Unauthenticated`, and the app
itself once it is `Authenticated`. The settings tab asks for a view model of its own: where the
user signs out there, the service and that view model know of it, and nothing tells
`MainActivity`.

The login screens offer their buttons while no call is in flight. `register` is given the
password twice.

## Conventions

The app is a list of view models over one service. The view model at the gate is never created
again; each settings screen that is opened adds one. A step offers what the screens offer
(`Offers`): no button while a call of the gate is in flight, no settings without the app. Which
account a registration creates, whether its profile can be updated, and what the service answers
is open.

## Proof

There are two machines and one agreement. Behind the login screens one call at a time is in flight
(`Single`), because the screens offer nothing else; its progress can be followed with what it has
done to the session so far (`Session`). `Coherent` joins this with the agreement and is the
invariant: it is kept by every offered step but two, the sign-out in the settings and the profile
that could not be updated (`Keeps`). After a sign-out the gate has no way back, and `SignedOut` is
an invariant of the rest of the run.

## Relation to `Auth`

The steps of a view model are those of `Auth`, whose lemmas about one call are used here; its
theorem about `isLoading` is not, since the gate may agree while the flag is wrong.

## Main results

* `App.gate_agrees_iff`: the runs in which `MainActivity` agrees with the service whenever no
  call is in flight.
* `App.signedOut_of_signOut`: what the rest of a run is like after a sign-out.
-/

namespace SpendCraft

open Kotlin Machine AuthViewModel

/-- The app: the service behind all view models, the view model that decides what is shown, and
those of the settings screens that were opened. -/
structure App where
  auth : FirebaseAuth
  /-- The view model of `MainActivity`. -/
  gate : AuthViewModel
  /-- The view models of the settings screens. -/
  settings : List AuthViewModel

namespace App

/-- A screen calls its view model, or a call goes on. -/
inductive Event
  /-- A screen calls the view model of `MainActivity`, or that goes on. -/
  | gate (event : AuthViewModel.Event)
  | openSettings
  | signOut (screen : ℕ)

/-- The start of the app: the session that the service restores decides what is shown first. -/
def launch (auth : FirebaseAuth) : App :=
  { auth := auth, gate := create auth, settings := [] }

/-- One event. A settings screen creates its own view model, and a sign-out reaches that one and
the service only. -/
def step (app : App) : Event → App
  | .gate event =>
      let (auth, gate) := AuthViewModel.step (app.auth, app.gate) event
      { app with auth := auth, gate := gate }
  | .openSettings => { app with settings := app.settings ++ [create app.auth] }
  | .signOut screen =>
      { app with
        auth := app.auth.signOut
        settings := app.settings.modify screen AuthViewModel.signOut }

/-- `MainActivity` shows the app. -/
def ShowsApp (app : App) : Prop :=
  ∃ user, app.gate.authState = .authenticated user

/-- What the screens offer. -/
def Offers (app : App) : Event → Prop
  | .gate (.signIn _ _) | .gate (.signInWithGoogle _) =>
      app.gate.authState = .unauthenticated ∧ ¬ InFlight app.gate.calls
  | .gate (.register _ _ password confirmPassword) =>
      app.gate.authState = .unauthenticated ∧ ¬ InFlight app.gate.calls ∧
        password = confirmPassword
  | .gate (.sendPasswordReset _) => app.gate.authState = .unauthenticated
  | .gate (.answer _ _) | .gate (.resume _) | .gate .clearError => True
  | .gate .signOut | .gate (.elsewhere _) => False
  | .openSettings => app.ShowsApp
  | .signOut screen => app.ShowsApp ∧ screen < app.settings.length

/-- `MainActivity` shows who is signed in. -/
def GateAgrees (app : App) : Prop :=
  app.gate.authState = checkAuthState app.auth

/-- Nobody signs out, and no registration goes on with a profile that could not be updated. -/
def Keeps (app : App) : Event → Prop
  | .signOut _ => False
  | .gate (.resume i) => ∀ user message,
      app.gate.calls[i]? ≠ some (some (.updatedProfile user (.error message)))
  | _ => True

/-- What a call has done to the session so far. -/
def Session (auth : FirebaseAuth) : AuthCall → Prop
  | .signedIn result | .createdUser _ result => auth.currentUser = result.toOption
  | .updatingProfile _ user currentUser =>
      auth.currentUser = some user ∧ currentUser = user
  | .updatedProfile user _ => auth.currentUser = some user
  | _ => auth.currentUser = none

/-- The call lost the profile of the user it has created. -/
def LosesProfile (call : AuthCall) : Prop :=
  ∃ user message, call = .updatedProfile user (.error message)

/-! ### Steps -/

variable {app app' : App} {auth : FirebaseAuth} {gate : AuthViewModel} {call next : AuthCall}
  {i : ℕ}

/-- What an offered step can do. `kept` says whether `Keeps` allows it. -/
inductive Progress (app : App) (kept : Prop) : App → Prop
  | quiet {gate : AuthViewModel} {settings : List AuthViewModel} (hkept : kept)
      (hstate : gate.authState = app.gate.authState)
      (hcalls : ∀ (i : ℕ) (call : AuthCall), call.loads = true →
        (gate.calls[i]? = some (some call) ↔ app.gate.calls[i]? = some (some call))) :
      Progress app kept { app with gate := gate, settings := settings }
  | start {call : AuthCall} (hkept : kept) (hidle : ¬ InFlight app.gate.calls)
      (hstate : app.gate.authState = .unauthenticated) (hloads : call.loads = true)
      (hsession : app.auth.currentUser = none → Session app.auth call) :
      Progress app kept { app with gate := app.gate.launch call }
  | advance {auth : FirebaseAuth} {gate : AuthViewModel} {call next : AuthCall} {i : ℕ}
      (hkept : kept) (hcall : app.gate.calls[i]? = some (some call))
      (hloads : next.loads = call.loads) (hauth : call.loads = false → auth = app.auth)
      (hsession : call.loads = true → Session app.auth call → Session auth next)
      (hstate : gate.authState = app.gate.authState)
      (hcalls : gate.calls = app.gate.calls.set i (some next)) :
      Progress app kept { app with auth := auth, gate := gate }
  | finish {gate : AuthViewModel} {call : AuthCall} {i : ℕ} (hkept : kept ↔ ¬ LosesProfile call)
      (hcall : app.gate.calls[i]? = some (some call))
      (hends : (fold app.auth app.gate call).2 = none)
      (hstate : gate.authState = (fold app.auth app.gate call).1.authState)
      (hcalls : gate.calls = app.gate.calls.set i none) :
      Progress app kept { app with gate := gate }
  | signOut {settings : List AuthViewModel} (hkept : ¬ kept) (hshows : app.ShowsApp) :
      Progress app kept { app with auth := app.auth.signOut, settings := settings }

/-- A step that changes nothing is a quiet one. -/
theorem Progress.refl {kept : Prop} (hkept : kept) : Progress app kept app :=
  show Progress app kept { app with gate := app.gate, settings := app.settings } from
    .quiet hkept rfl fun _ _ _ => Iff.rfl

/-- So is one that shows a message. -/
theorem Progress.showError {kept : Prop} (hkept : kept) (message : Text) :
    Progress app kept { app with gate := app.gate.withError message } := by
  refine .quiet hkept ?_ ?_
  · rfl
  · exact fun _ _ _ => Iff.rfl

/-- A password reset launches a call that does not load. -/
theorem progress_sendPasswordReset (email : Text) :
    Progress app True { app with gate := app.gate.sendPasswordReset email } := by
  rw [sendPasswordReset]
  split
  · exact .showError trivial _
  · refine .quiet trivial ?_ ?_
    · rfl
    · intro i call hload
      simp only [List.getElem?_append]
      by_cases hi : i < app.gate.calls.length
      · simp [hi]
      · rw [if_neg hi, List.getElem?_eq_none (Nat.le_of_not_lt hi)]
        have hlast : ∀ k : ℕ, [some (AuthCall.sendingReset email)][k]? ≠ some (some call) := by
          rintro (_ | k) hk
          · obtain rfl : AuthCall.sendingReset email = call := by simpa using hk
            simp [AuthCall.loads] at hload
          · simp at hk
        simp [hlast]

/-- What an answer does to the session is what the call then says it has done. -/
theorem session_answer (a : AuthAnswer) (hloads : call.loads = true)
    (hsession : Session auth call) :
    Session (call.answer a auth).1 (call.answer a auth).2 := by
  cases call with
  | signingIn email password =>
      rcases a with (_ | _ | _) | _ <;>
        simp_all [AuthCall.answer, Session, FirebaseAuth.signedIn, userResult, Except.toOption]
  | signingInWithGoogle idToken =>
      rcases a with (_ | _ | _) | _ <;>
        simp_all [AuthCall.answer, Session, FirebaseAuth.signedIn, userResult, Except.toOption]
  | creatingUser name email password =>
      rcases a with (_ | _ | _) | _ <;>
        simp_all [AuthCall.answer, Session, FirebaseAuth.signedIn, userResult, Except.toOption]
  | updatingProfile name user currentUser =>
      rcases a with _ | _ | _ <;>
        simp_all [AuthCall.answer, Session, FirebaseAuth.updateProfile]
  | signedIn result => exact hsession
  | createdUser name result => exact hsession
  | updatedProfile user result => exact hsession
  | sendingReset email => simp [AuthCall.loads] at hloads
  | sentReset result => simp [AuthCall.loads] at hloads

/-- The answer to a call that does not load leaves the session alone. -/
theorem auth_answer_of_not_loads (a : AuthAnswer) (auth : FirebaseAuth)
    (hloads : call.loads = false) :
    (call.answer a auth).1 = auth := by
  cases call <;> cases a <;> simp_all [AuthCall.answer, AuthCall.loads]

/-- An answer moves one call on. -/
theorem progress_answer (i : ℕ) (a : AuthAnswer) :
    Progress app True (app.step (.gate (.answer i a))) := by
  cases hcall : app.gate.calls[i]? with
  | none => simpa [App.step, AuthViewModel.step, AuthViewModel.answer, hcall] using .refl trivial
  | some call =>
      cases call with
      | none =>
          simpa [App.step, AuthViewModel.step, AuthViewModel.answer, hcall] using .refl trivial
      | some call =>
          simp only [App.step, AuthViewModel.step, AuthViewModel.answer, hcall]
          exact .advance trivial hcall (loads_answer a app.auth call)
            (auth_answer_of_not_loads a app.auth) (session_answer a) rfl rfl

/-- A call that does not end shows nothing yet. -/
theorem fold_of_goesOn (hnext : (fold app.auth app.gate call).2 = some next) :
    ¬ LosesProfile call ∧ (fold app.auth app.gate call).1.authState = app.gate.authState ∧
      (Session app.auth call → Session app.auth next) := by
  rcases call with _ | _ | ⟨_ | user⟩ | _ | ⟨name, _ | user⟩ | _ | ⟨user, _ | _⟩ | _ | (_ | _)
  case createdUser.ok =>
    cases hcurrent : app.auth.currentUser with
    | none => simp [fold, hcurrent] at hnext
    | some currentUser =>
        simp only [fold, hcurrent, Option.some.injEq] at hnext
        simp [fold, hcurrent, ← hnext, Session, LosesProfile, Except.toOption]
  all_goals simp only [fold, Option.some.injEq, reduceCtorEq] at hnext
  all_goals
    subst hnext
    simp [fold, LosesProfile]

/-- A resumed call either goes on or ends with its result folded into the state. -/
theorem progress_resume (i : ℕ) :
    Progress app (app.Keeps (.gate (.resume i))) (app.step (.gate (.resume i))) := by
  simp only [App.step, AuthViewModel.step, Keeps]
  cases hcall : app.gate.calls[i]? with
  | none => simpa [resume, hcall] using .refl trivial
  | some call =>
      cases call with
      | none => simpa [resume, hcall] using .refl trivial
      | some call =>
          have hkept : (∀ user message, some (some call) ≠
              some (some (.updatedProfile user (.error message)))) ↔ ¬ LosesProfile call := by
            simp [LosesProfile]
          obtain ⟨next, hnext, hloads, heq⟩ | ⟨hends, heq⟩ := resume_cases app.auth hcall
          · obtain ⟨hkeeps, hstate, hsession⟩ := fold_of_goesOn hnext
            rw [heq]
            exact .advance (hkept.mpr hkeeps) hcall hloads (fun _ => rfl) (fun _ => hsession)
              hstate rfl
          · rw [heq]
            exact .finish hkept hcall hends rfl rfl

/-- **Every offered step is one of the five kinds.**. -/
theorem progress_of_offers {event : Event} (hoffers : app.Offers event) :
    Progress app (app.Keeps event) (app.step event) := by
  rcases event with event | _ | screen
  · cases event with
    | signIn email password =>
        obtain ⟨hstate, hidle⟩ := hoffers
        simp only [App.step, AuthViewModel.step, signIn]
        split
        · exact .showError trivial _
        · exact .start trivial hidle hstate rfl id
    | register name email password confirmPassword =>
        obtain ⟨hstate, hidle, -⟩ := hoffers
        simp only [App.step, AuthViewModel.step, register]
        split_ifs
        · exact .showError trivial _
        · exact .showError trivial _
        · exact .showError trivial _
        · exact .start trivial hidle hstate rfl id
    | signInWithGoogle idToken =>
        obtain ⟨hstate, hidle⟩ := hoffers
        exact .start trivial hidle hstate rfl id
    | sendPasswordReset email => exact progress_sendPasswordReset email
    | clearError =>
        refine .quiet trivial ?_ ?_
        · rfl
        · exact fun _ _ _ => Iff.rfl
    | answer i a => exact progress_answer i a
    | resume i => exact progress_resume i
    | signOut => exact hoffers.elim
    | elsewhere auth => exact hoffers.elim
  · exact .quiet trivial rfl fun _ _ _ => Iff.rfl
  · exact .signOut id hoffers.1

/-! ### One call at a time -/

/-- At most one call that loads is in flight, and behind the login screens. -/
structure Single (app : App) : Prop where
  alone : ∀ i j, LoadsAt app.gate.calls i → LoadsAt app.gate.calls j → i = j
  unauthenticated : InFlight app.gate.calls → app.gate.authState = .unauthenticated

/-- At the start no call is in flight. -/
theorem single_launch (auth : FirebaseAuth) : (launch auth).Single where
  alone := by simp [launch, create, LoadsAt]
  unauthenticated := by simp [launch, create, InFlight, LoadsAt]

/-- A call that loads is in flight. -/
theorem inFlight_of_loads {calls : List (Option AuthCall)} (hcall : calls[i]? = some (some call))
    (hloads : call.loads = true) : InFlight calls :=
  ⟨i, call, hcall, hloads⟩

/-- With nothing in flight, no call loads. -/
theorem loads_eq_false_of_not_inFlight {calls : List (Option AuthCall)} (hidle : ¬ InFlight calls)
    (hcall : calls[i]? = some (some call)) : call.loads = false := by
  by_contra hload
  exact hidle (inFlight_of_loads hcall (by simpa using hload))

/-- A call beside one that loads does not load. -/
theorem Single.loads_eq_false (h : app.Single) {j : ℕ}
    (hcall : app.gate.calls[i]? = some (some call))
    (hj : LoadsAt app.gate.calls j) (hij : i ≠ j) : call.loads = false := by
  by_contra hload
  exact hij (h.alone i j ⟨call, hcall, by simpa using hload⟩ hj)

/-- The app is shown only while no call is in flight. -/
theorem ShowsApp.not_inFlight (hshows : app.ShowsApp) (h : app.Single) :
    ¬ InFlight app.gate.calls := by
  intro hflight
  obtain ⟨user, huser⟩ := hshows
  simp [h.unauthenticated hflight] at huser

/-- A call that does not load does not touch what is shown. -/
theorem authState_fold_of_not_loads (hloads : call.loads = false) :
    (fold auth gate call).1.authState = gate.authState := by
  rcases call with _ | _ | _ | _ | _ | _ | _ | _ | (_ | _)
  case sentReset.ok | sentReset.error | sendingReset => rfl
  all_goals simp [AuthCall.loads] at hloads

/-- **Step lemma:** one call at a time stays one call at a time. -/
theorem Single.progress {kept : Prop} (h : app.Single) (hstep : Progress app kept app') :
    app'.Single := by
  cases hstep with
  | quiet _ hstate hcalls =>
      have hloads : ∀ i, LoadsAt _ i ↔ LoadsAt app.gate.calls i := fun i =>
        exists_congr fun call => and_congr_left (hcalls i call)
      exact ⟨by simpa [hloads] using h.alone, by simpa [InFlight, hloads, hstate] using
        h.unauthenticated⟩
  | @start call _ hidle hstate _ _ =>
      have hlast : ∀ j, LoadsAt (app.gate.launch call).calls j → j = app.gate.calls.length := by
        intro j hj
        obtain hold | ⟨rfl, -⟩ := (loadsAt_append _ app.gate.calls).mp hj
        · exact absurd ⟨j, hold⟩ hidle
        · rfl
      exact ⟨fun j k hj hk => (hlast j hj).trans (hlast k hk).symm, fun _ => hstate⟩
  | advance _ hcall hloads _ _ hstate hcalls =>
      constructor
      · simpa [hcalls, loadsAt_set_some hcall hloads] using h.alone
      · simpa [hcalls, hstate, inFlight_set_some hcall hloads] using h.unauthenticated
  | finish _ hcall _ hstate hcalls =>
      constructor
      · intro j k hj hk
        simp only [hcalls, loadsAt_set_none] at hj hk
        exact h.alone j k hj.2 hk.2
      · rintro ⟨j, hj⟩
        simp only [hcalls, loadsAt_set_none] at hj
        have hload := h.loads_eq_false hcall hj.2 hj.1.symm
        exact hstate.trans ((authState_fold_of_not_loads hload).trans (h.unauthenticated ⟨j, hj.2⟩))
  | signOut _ hshows => exact ⟨h.alone, h.unauthenticated⟩

/-! ### Runs in which the gate agrees -/

/-- `MainActivity` shows what the service says, unless a call is in flight. -/
def AgreesIdle (app : App) : Prop :=
  ¬ InFlight app.gate.calls → app.GateAgrees

/-- What holds of every state in which the gate agrees: one call at a time, the agreement itself,
and a session that fits the call in flight. -/
structure Coherent (app : App) : Prop extends Single app where
  agrees : app.AgreesIdle
  session : ∀ (i : ℕ) (call : AuthCall), app.gate.calls[i]? = some (some call) →
    call.loads = true → Session app.auth call

/-- The login screens are shown exactly if the service has no user. -/
theorem checkAuthState_eq_unauthenticated_iff :
    checkAuthState auth = .unauthenticated ↔ auth.currentUser = none := by
  cases h : auth.currentUser <;> simp [checkAuthState, h]

/-- A restored user is shown as signed in. -/
theorem checkAuthState_of_currentUser {user : FirebaseUser} (h : auth.currentUser = some user) :
    checkAuthState auth = .authenticated user := by
  simp [checkAuthState, h]

/-- The start is coherent. -/
theorem coherent_launch (auth : FirebaseAuth) : (launch auth).Coherent where
  toSingle := single_launch auth
  agrees _ := rfl
  session := by simp [launch, create]

/-- A call that ends shows its session, unless it lost the profile. -/
theorem Coherent.authState_fold_iff (h : app.Coherent)
    (hcall : app.gate.calls[i]? = some (some call))
    (hends : (fold app.auth app.gate call).2 = none) (hload : call.loads = true) :
    (fold app.auth app.gate call).1.authState = checkAuthState app.auth ↔ ¬ LosesProfile call := by
  have hsession := h.session i call hcall hload
  have hstate := h.unauthenticated (inFlight_of_loads hcall hload)
  rcases call with _ | _ | ⟨_ | user⟩ | _ | ⟨name, _ | user⟩ | _ | ⟨user, _ | _⟩ | _ | _
  case signedIn.error | createdUser.error =>
    have hnone : app.auth.currentUser = none := hsession
    simp [fold, withError, checkAuthState, hnone, hstate, LosesProfile]
  case signedIn.ok | updatedProfile.ok =>
    have huser : app.auth.currentUser = some user := hsession
    simp [fold, checkAuthState_of_currentUser huser, LosesProfile]
  case createdUser.ok =>
    have huser : app.auth.currentUser = some user := hsession
    simp [fold, huser] at hends
  case updatedProfile.error =>
    have huser : app.auth.currentUser = some user := hsession
    simp [fold, withError, checkAuthState_of_currentUser huser, hstate, LosesProfile]
  all_goals simp_all [fold, AuthCall.loads]

/-- A step keeps the agreement exactly if it is allowed. -/
theorem Coherent.agreesIdle_iff {kept : Prop} (h : app.Coherent) (hstep : Progress app kept app') :
    app'.AgreesIdle ↔ kept := by
  cases hstep with
  | quiet hkept hstate hcalls =>
      have hloads : ∀ i, LoadsAt _ i ↔ LoadsAt app.gate.calls i := fun i =>
        exists_congr fun call => and_congr_left (hcalls i call)
      refine iff_of_true ?_ hkept
      simpa [AgreesIdle, GateAgrees, InFlight, hloads, hstate] using h.agrees
  | start hkept _ _ hloads _ =>
      exact iff_of_true (fun hnot => absurd (inFlight_append.mpr (Or.inr hloads)) hnot) hkept
  | advance hkept hcall hloads hauth _ hstate hcalls =>
      refine iff_of_true ?_ hkept
      intro hnot
      simp only [hcalls, inFlight_set_some hcall hloads] at hnot
      have hreset := loads_eq_false_of_not_inFlight hnot hcall
      simpa [GateAgrees, hstate, hauth hreset] using h.agrees hnot
  | finish hkept hcall hends hstate hcalls =>
      cases hload : AuthCall.loads _ with
      | true =>
          rw [hkept, ← h.authState_fold_iff hcall hends hload, ← hstate]
          refine imp_iff_right ?_
          rintro ⟨j, hj⟩
          simp only [hcalls, loadsAt_set_none] at hj
          exact absurd hload (by simp [h.loads_eq_false hcall hj.2 hj.1.symm])
      | false =>
          refine iff_of_true ?_ (hkept.mpr ?_)
          · intro hnot
            simp only [hcalls, inFlight_set_none_of_not_loads hcall hload] at hnot
            have hsame : (fold app.auth app.gate _).1.authState = app.gate.authState :=
              authState_fold_of_not_loads hload
            exact hstate.trans (hsame.trans (h.agrees hnot))
          · rintro ⟨user, message, rfl⟩
            simp [AuthCall.loads] at hload
  | signOut hkept hshows =>
      refine iff_of_false ?_ hkept
      intro hagrees
      have hafter := hagrees (hshows.not_inFlight h.toSingle)
      obtain ⟨user, huser⟩ := hshows
      simp [GateAgrees, FirebaseAuth.signOut, checkAuthState, huser] at hafter

/-- **Step lemma:** an allowed step keeps the state coherent. -/
theorem Coherent.progress {kept : Prop} (h : app.Coherent) (hstep : Progress app kept app')
    (hkept : kept) : app'.Coherent := by
  refine ⟨h.toSingle.progress hstep, (h.agreesIdle_iff hstep).mpr hkept, ?_⟩
  cases hstep with
  | quiet _ _ hcalls =>
      intro i call hcall hload
      exact h.session i call ((hcalls i call hload).mp hcall) hload
  | start _ hidle hstate hloads hsession =>
      intro j other hother hload
      have hnone : app.auth.currentUser = none :=
        checkAuthState_eq_unauthenticated_iff.mp ((h.agrees hidle).symm.trans hstate)
      obtain hold | ⟨rfl, -⟩ := (loadsAt_append _ app.gate.calls).mp ⟨other, hother, hload⟩
      · exact absurd ⟨j, hold⟩ hidle
      · obtain rfl := Option.some.inj (Option.some.inj
          ((List.getElem?_concat_length).symm.trans hother))
        exact hsession hnone
  | @advance auth gate call next i _ hcall hloads hauth hsession _ hcalls =>
      intro j other hother hload
      simp only [hcalls] at hother
      have hj : LoadsAt app.gate.calls j :=
        (loadsAt_set_some hcall hloads).mp ⟨other, hother, hload⟩
      by_cases hij : i = j
      · subst hij
        have hi : i < app.gate.calls.length := (List.getElem?_eq_some_iff.mp hcall).1
        obtain rfl : next = other := by simpa [List.getElem?_set_self hi] using hother
        have hload' := hloads.symm.trans hload
        exact hsession hload' (h.session i call hcall hload')
      · rw [List.getElem?_set_ne hij] at hother
        exact hauth (h.loads_eq_false hcall hj hij) ▸ h.session j other hother hload
  | @finish gate call i _ hcall _ _ hcalls =>
      intro j other hother hload
      have hj : LoadsAt gate.calls j := ⟨other, hother, hload⟩
      rw [hcalls, loadsAt_set_none] at hj
      refine h.session j other ?_ hload
      rwa [hcalls, List.getElem?_set_ne hj.1.symm] at hother
  | signOut hnot _ => exact absurd hkept hnot

/-- While the screens are used as they are offered, `MainActivity` shows who is signed in
whenever no call is in flight, just when nobody signs out and every registration gets its
profile. -/
theorem gate_agrees_iff (auth : FirebaseAuth) (events : List Event)
    (hoffers : AllSteps step Offers (launch auth) events) :
    (∀ pre, pre <+: events → (run step (launch auth) pre).AgreesIdle) ↔
    AllSteps step Keeps (launch auth) events := by
  refine forall_prefix_view_iff_of_allSteps (I := Coherent) (V := AgreesIdle) ?_ ?_ ?_
    (coherent_launch auth) hoffers
  · intro app h
    exact h.agrees
  · intro app event h hoffers hkeeps
    exact h.progress (progress_of_offers hoffers) hkeeps
  · intro app event h hoffers hagrees
    exact (h.agreesIdle_iff (progress_of_offers hoffers)).mp hagrees

/-- Nobody is signed in. -/
def noSession : FirebaseAuth := ⟨none, fun _ => none⟩

/-- A registration whose account is created and whose profile is not updated. -/
def lostProfile : List Event :=
  [.gate (.register ['A'] ['b'] "123456".toList "123456".toList),
    .gate (.answer 0 (.session (.ok (some ⟨['u']⟩)))), .gate (.resume 0),
    .gate (.answer 0 (.done (.error none))), .gate (.resume 0)]

/-- The theorem at a lost profile: the user exists, and the app shows the login screens. -/
theorem not_agreesIdle_lostProfile :
    ¬ ∀ pre, pre <+: lostProfile → (run step (launch noSession) pre).AgreesIdle := by
  have hoffers : AllSteps step Offers (launch noSession) lostProfile := by
    simp [lostProfile, Offers, launch, create, checkAuthState, noSession, InFlight, LoadsAt]
  rw [gate_agrees_iff noSession lostProfile hoffers]
  simp [lostProfile, Keeps, App.step, AuthViewModel.step, launch, create, noSession, register,
    isBlank, isWhitespace, utf16Length, AuthViewModel.launch, answer, AuthCall.answer, resume, fold,
    userResult, FirebaseAuth.signedIn]

/-- The app after a sign-out: the service has no user, and `MainActivity` still shows the app. -/
structure SignedOut (app : App) : Prop extends Single app where
  currentUser : app.auth.currentUser = none
  shows : app.ShowsApp

/-- **Step lemma:** nothing that is offered leads out of this state. -/
theorem SignedOut.progress {kept : Prop} (h : app.SignedOut) (hstep : Progress app kept app') :
    app'.SignedOut := by
  have hidle := h.shows.not_inFlight h.toSingle
  obtain ⟨user, huser⟩ := h.shows
  refine ⟨h.toSingle.progress hstep, ?_, ?_⟩
  · cases hstep with
    | advance _ hcall _ hauth _ _ _ =>
        exact hauth (loads_eq_false_of_not_inFlight hidle hcall) ▸ h.currentUser
    | signOut _ _ => rfl
    | _ => exact h.currentUser
  · cases hstep with
    | quiet _ hstate _ => exact ⟨user, hstate.trans huser⟩
    | start _ _ hstate _ _ => simp [hstate] at huser
    | advance _ _ _ _ _ hstate _ => exact ⟨user, hstate.trans huser⟩
    | finish _ hcall _ hstate _ =>
        have hsame : (fold app.auth app.gate _).1.authState = app.gate.authState :=
          authState_fold_of_not_loads (loads_eq_false_of_not_inFlight hidle hcall)
        exact ⟨user, hstate.trans (hsame.trans huser)⟩
    | signOut _ hshows => exact ⟨user, huser⟩

/-- After a sign-out, no step that the screens offer signs anybody in or leads back to the login
screens. -/
theorem signedOut_of_signOut (auth : FirebaseAuth) (events later : List Event) (screen : ℕ)
    (hoffers : AllSteps step Offers (launch auth) (events ++ .signOut screen :: later)) :
    (run step (launch auth) (events ++ .signOut screen :: later)).SignedOut := by
  rw [allSteps_append, allSteps_cons] at hoffers
  obtain ⟨hbefore, hsignOut, hlater⟩ := hoffers
  have hsingle : (run step (launch auth) events).Single :=
    run_invariant (fun app event h hoffers => h.progress (progress_of_offers hoffers)) hbefore
      (single_launch auth)
  have hstart : ((run step (launch auth) events).step (.signOut screen)).SignedOut :=
    ⟨hsingle.progress (progress_of_offers hsignOut), rfl, hsignOut.1⟩
  rw [run_append, run_cons]
  exact run_invariant (fun app event h hoffers => h.progress (progress_of_offers hoffers)) hlater
    hstart

/-- A sign-in, and a sign-out in the settings. -/
def signInAndOut : List Event :=
  [.gate (.signIn ['b'] "123456".toList), .gate (.answer 0 (.session (.ok (some ⟨['u']⟩)))),
    .gate (.resume 0), .openSettings]

/-- The theorem at a sign-in with a sign-out in the settings. -/
theorem signedOut_signInAndOut :
    (run step (launch noSession) (signInAndOut ++ .signOut 0 :: [])).SignedOut := by
  refine signedOut_of_signOut noSession signInAndOut [] 0 ?_
  simp [signInAndOut, Offers, ShowsApp, App.step, AuthViewModel.step, launch, create, noSession,
    signIn, isBlank, isWhitespace, AuthViewModel.launch, answer, AuthCall.answer, resume, fold,
    userResult, FirebaseAuth.signedIn, checkAuthState, InFlight, LoadsAt]

end App

end SpendCraft
