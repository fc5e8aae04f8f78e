import SpendCraft.Lib.KotlinText
import SpendCraft.Lib.Machine

/-!
# Signing In to the Android App

`AuthViewModel` starts a coroutine for each call to the authentication service and goes on when
the answer is there. The answers come in any order, and between an answer and its coroutine the
user may do anything else. The app has several view models over one service: that of
`MainActivity` decides between the login screens and the app itself, and each settings screen
has its own, on which the user signs out.

The service is `FirebaseAuth`: its answers are whatever the SDK gives, and a session that an
answer brings is there before the coroutine goes on. Analytics, crash reports and the printed
lines are left out, and so are exceptions of these.

## Conventions

A coroutine is the list of its waiting places: `AuthCall` says where it waits, and whether for the
service or to go on with an answer that is there. A call is named by its place in the order of the
starts, and what has ended stays in the list with nothing left to do. `Result` keeps the message
of an exception only, since no more of it is read. The texts that the screens show are those of
the source, in Turkish.

The service may answer each call in any way and at any time. Its session changes when it answers,
not when the coroutine goes on.

## Proof

`isLoading` is set at the start of a call and cleared in `finally`, whoever else is still loading.
So the flag tells whether a call is in flight (`Faithful`) only as long as no call ends while
another loads, which is the condition `EndsAlone` on a step; whether a step keeps the flag right
is decided case by case, and the run is the rule of `Machine` for an exact condition. The password
reset, which does not set the flag, is no call that loads.

## Main results

* `isLoading_iff_of_endsAlone`: when `isLoading` says that a call is in flight.
-/

namespace SpendCraft

open Kotlin Machine

/-- A `FirebaseUser`, by its uid. -/
structure FirebaseUser where
  uid : Text
  deriving DecidableEq, Repr

/-- `Result<T>`; of the exception only its message is read. -/
abbrev Result (α : Type) := Except (Option Text) α

/-- What `MainActivity` asks for: whether somebody is signed in. -/
inductive AuthState
  | loading
  | unauthenticated
  | authenticated (user : FirebaseUser)
  deriving DecidableEq, Repr

/-- The service: who is signed in, and the names of the accounts. -/
structure FirebaseAuth where
  currentUser : Option FirebaseUser
  displayName : FirebaseUser → Option Text

namespace FirebaseAuth

/-- `signOut` of the service. -/
def signOut (auth : FirebaseAuth) : FirebaseAuth :=
  { auth with currentUser := none }

/-- The session an answer brings. An error leaves the session that was there. -/
def signedIn (session : Result (Option FirebaseUser)) (auth : FirebaseAuth) : FirebaseAuth :=
  match session with
  | .ok user => { auth with currentUser := user }
  | .error _ => auth

/-- `user.updateProfile` with a display name. -/
def updateProfile (user : FirebaseUser) (name : Text) (answer : Result Unit)
    (auth : FirebaseAuth) : FirebaseAuth :=
  match answer with
  | .ok () =>
    { auth with displayName := fun u => if u = user then some name else auth.displayName u }
  | .error _ => auth

end FirebaseAuth

/-- `if (user != null) Result.success(user) else Result.failure(Exception(noUser))`, or the
exception that was caught. -/
def userResult (noUser : Text) (session : Result (Option FirebaseUser)) : Result FirebaseUser :=
  match session with
  | .ok (some user) => .ok user
  | .ok none => .error (some noUser)
  | .error message => .error message

/-- Where a coroutine waits: for an answer of the service, or to go on with it. -/
inductive AuthCall
  | signingIn (email password : Text)
  | signingInWithGoogle (idToken : Option Text)
  | signedIn (result : Result FirebaseUser)
  | creatingUser (name email password : Text)
  | createdUser (name : Text) (result : Result FirebaseUser)
  /-- `user` was created; the profile is that of `currentUser` when the coroutine went on. -/
  | updatingProfile (name : Text) (user currentUser : FirebaseUser)
  | updatedProfile (user : FirebaseUser) (result : Result Unit)
  | sendingReset (email : Text)
  | sentReset (result : Result Unit)

/-- What the service answers. -/
inductive AuthAnswer
  | session (session : Result (Option FirebaseUser))
  | done (result : Result Unit)

namespace AuthCall

/-- The call was started with `_isLoading.value = true`. -/
def loads : AuthCall → Bool
  | sendingReset _ => false
  | sentReset _ => false
  | _ => true

/-- The service answers a call that waits for it. -/
def answer (answer : AuthAnswer) (auth : FirebaseAuth) : AuthCall → FirebaseAuth × AuthCall
  | signingIn email password =>
      match answer with
      | .session session =>
          (auth.signedIn session, signedIn (userResult "Sign in failed".toList session))
      | .done _ => (auth, signingIn email password)
  | signingInWithGoogle idToken =>
      match answer with
      | .session session =>
          (auth.signedIn session,
            signedIn (userResult "Google sign in failed - no user".toList session))
      | .done _ => (auth, signingInWithGoogle idToken)
  | creatingUser name email password =>
      match answer with
      | .session session =>
          (auth.signedIn session,
            createdUser name (userResult "User creation failed".toList session))
      | .done _ => (auth, creatingUser name email password)
  | updatingProfile name user currentUser =>
      match answer with
      | .done result => (auth.updateProfile currentUser name result, updatedProfile user result)
      | .session _ => (auth, updatingProfile name user currentUser)
  | sendingReset email =>
      match answer with
      | .done result => (auth, sentReset result)
      | .session _ => (auth, sendingReset email)
  | call => (auth, call)

end AuthCall

/-- Call `i` set `isLoading` and has not ended. -/
def LoadsAt (calls : List (Option AuthCall)) (i : ℕ) : Prop :=
  ∃ call, calls[i]? = some (some call) ∧ call.loads = true

/-- A call that loads is in flight. -/
def InFlight (calls : List (Option AuthCall)) : Prop :=
  ∃ i, LoadsAt calls i

/-- The view model of the authentication screens. -/
structure AuthViewModel where
  authState : AuthState
  isLoading : Bool
  errorMessage : Option Text
  /-- The coroutines in the order of their launch, `none` where one has ended. -/
  calls : List (Option AuthCall)

namespace AuthViewModel

/-- The match stands for `isUserSignedIn` and `currentUser!!`. -/
def checkAuthState (auth : FirebaseAuth) : AuthState :=
  match auth.currentUser with
  | some user => .authenticated user
  | none => .unauthenticated

/-- A new view model. -/
def create (auth : FirebaseAuth) : AuthViewModel :=
  { authState := checkAuthState auth, isLoading := false, errorMessage := none, calls := [] }

/-- `getErrorMessage`: the Turkish text for the message of the service. -/
def getErrorMessage (message : Option Text) : Text :=
  if message = some "The email address is badly formatted.".toList then
    "Geçersiz e-posta adresi".toList
  else if message = some
      "The password is invalid or the user does not have a password.".toList then
    "Geçersiz şifre".toList
  else if message = some "There is no user record corresponding to this identifier.".toList then
    "Bu e-posta adresi ile kayıtlı kullanıcı bulunamadı".toList
  else if message = some "The email address is already in use by another account.".toList then
    "Bu e-posta adresi zaten kullanılıyor".toList
  else if message = some "The given password is invalid.".toList then
    "Şifre çok zayıf".toList
  else if message = some ("A network error (such as timeout, interrupted connection or " ++
      "unreachable host) has occurred.").toList then
    "Ağ hatası. İnternet bağlantınızı kontrol edin".toList
  else "Giriş yapılamadı. Lütfen tekrar deneyin".toList

/-- The screen shows the message. -/
def withError (message : Text) (model : AuthViewModel) : AuthViewModel :=
  { model with errorMessage := some message }

/-- `clearError`. -/
def clearError (model : AuthViewModel) : AuthViewModel :=
  { model with errorMessage := none }

/-- `_isLoading.value = true`, `_errorMessage.value = null`, and the coroutine up to its first
answer. -/
def launch (call : AuthCall) (model : AuthViewModel) : AuthViewModel :=
  { model with isLoading := true, errorMessage := none, calls := model.calls ++ [some call] }

/-- `signIn`: blank fields are refused before the service is asked. -/
def signIn (email password : Text) (model : AuthViewModel) : AuthViewModel :=
  if isBlank email || isBlank password then
    model.withError "E-posta ve şifre boş olamaz".toList
  else model.launch (.signingIn email password)

/-- `register`: the checks come in the order of the source, and the first that fails is shown. -/
def register (name email password confirmPassword : Text) (model : AuthViewModel) :
    AuthViewModel :=
  if isBlank name || isBlank email || isBlank password || isBlank confirmPassword then
    model.withError "Tüm alanlar doldurulmalıdır".toList
  else if password ≠ confirmPassword then
    model.withError "Şifreler eşleşmiyor".toList
  else if utf16Length password < 6 then
    model.withError "Şifre en az 6 karakter olmalıdır".toList
  else model.launch (.creatingUser name email password)

/-- `signInWithGoogle`. -/
def signInWithGoogle (idToken : Option Text) (model : AuthViewModel) : AuthViewModel :=
  model.launch (.signingInWithGoogle idToken)

/-- `sendPasswordReset`: the one call that does not set `isLoading`. -/
def sendPasswordReset (email : Text) (model : AuthViewModel) : AuthViewModel :=
  if isBlank email then model.withError "E-posta adresi boş olamaz".toList
  else { model with calls := model.calls ++ [some (.sendingReset email)] }

/-- `signOut` does not wait for anything. -/
def signOut (model : AuthViewModel) : AuthViewModel :=
  { model with authState := .unauthenticated }

/-- What a coroutine does when it goes on: what it writes, before `finally`, and where it waits
next. -/
def fold (auth : FirebaseAuth) (model : AuthViewModel) : AuthCall → AuthViewModel × Option AuthCall
  | .signedIn (.ok user) => ({ model with authState := .authenticated user }, none)
  | .signedIn (.error message) => (model.withError (getErrorMessage message), none)
  | .createdUser name (.ok user) =>
      match auth.currentUser with
      | some currentUser => (model, some (.updatingProfile name user currentUser))
      | none => (model.withError "Profil güncellenirken hata oluştu".toList, none)
  | .createdUser _ (.error message) => (model.withError (getErrorMessage message), none)
  | .updatedProfile user (.ok ()) => ({ model with authState := .authenticated user }, none)
  | .updatedProfile _ (.error _) =>
      (model.withError "Profil güncellenirken hata oluştu".toList, none)
  | .sentReset (.ok ()) => (model, none)
  | .sentReset (.error message) => (model.withError (getErrorMessage message), none)
  | call => (model, some call)

/-- The coroutine of call `i` goes on; where it ends, `finally` is run. -/
def resume (auth : FirebaseAuth) (i : ℕ) (model : AuthViewModel) : AuthViewModel :=
  match model.calls[i]? with
  | some (some call) =>
      match fold auth model call with
      | (model', some next) => { model' with calls := model.calls.set i (some next) }
      | (model', none) =>
          { model' with
            isLoading := if call.loads then false else model.isLoading
            calls := model.calls.set i none }
  | _ => model

/-- The service answers call `i`. -/
def answer (answer : AuthAnswer) (auth : FirebaseAuth) (i : ℕ) (model : AuthViewModel) :
    FirebaseAuth × AuthViewModel :=
  match model.calls[i]? with
  | some (some call) =>
      let (auth', next) := call.answer answer auth
      (auth', { model with calls := model.calls.set i (some next) })
  | _ => (auth, model)

/-! ### One view model -/

/-- A screen calls the view model, the service answers a call in flight, or a call goes on with
its answer. A call is named by its place in the order of launch. -/
inductive Event
  | signIn (email password : Text)
  | register (name email password confirmPassword : Text)
  | signInWithGoogle (idToken : Option Text)
  | sendPasswordReset (email : Text)
  | signOut
  | clearError
  | answer (i : ℕ) (answer : AuthAnswer)
  | resume (i : ℕ)
  /-- Another view model changed the session. -/
  | elsewhere (auth : FirebaseAuth)

/-- One event on the service and the view model. -/
def step : FirebaseAuth × AuthViewModel → Event → FirebaseAuth × AuthViewModel
  | (auth, model), .signIn email password => (auth, model.signIn email password)
  | (auth, model), .register name email password confirmPassword =>
      (auth, model.register name email password confirmPassword)
  | (auth, model), .signInWithGoogle idToken => (auth, model.signInWithGoogle idToken)
  | (auth, model), .sendPasswordReset email => (auth, model.sendPasswordReset email)
  | (auth, model), .signOut => (auth.signOut, model.signOut)
  | (auth, model), .clearError => (auth, model.clearError)
  | (auth, model), .answer i a => model.answer a auth i
  | (auth, model), .resume i => (auth, model.resume auth i)
  | (_, model), .elsewhere auth => (auth, model)

/-- Where a call that loads ends, no other is in flight. -/
def EndsAlone : FirebaseAuth × AuthViewModel → Event → Prop
  | (auth, model), .resume i =>
      ∀ call, model.calls[i]? = some (some call) → call.loads = true →
        (fold auth model call).2 = none → ∀ j, LoadsAt model.calls j → j = i
  | _, _ => True

variable {auth : FirebaseAuth} {model : AuthViewModel} {call next : AuthCall} {i j : ℕ}

/-- An answer does not change what kind of call it is. -/
theorem loads_answer (a : AuthAnswer) (auth : FirebaseAuth) (call : AuthCall) :
    (call.answer a auth).2.loads = call.loads := by
  cases call <;> cases a <;> rfl

/-- What going on leaves: the flag, the calls, and whether the call loads. -/
theorem fold_frame (auth : FirebaseAuth) (model : AuthViewModel) (call : AuthCall) :
    (fold auth model call).1.isLoading = model.isLoading ∧
      (fold auth model call).1.calls = model.calls ∧
      ∀ next, (fold auth model call).2 = some next → next.loads = call.loads := by
  rcases call with _ | _ | (_ | _) | _ | ⟨name, _ | _⟩ | _ | ⟨_, _ | _⟩ | _ | (_ | _)
  case createdUser.ok =>
    cases hcurrent : auth.currentUser <;> simp [fold, withError, hcurrent, AuthCall.loads]
  all_goals simp [fold, withError, AuthCall.loads]

/-- A call that is launched loads in its place. -/
theorem loadsAt_append (call : AuthCall) (calls : List (Option AuthCall)) :
    LoadsAt (calls ++ [some call]) j ↔
      LoadsAt calls j ∨ j = calls.length ∧ call.loads = true := by
  simp only [LoadsAt, List.getElem?_append]
  by_cases hj : j < calls.length
  · simp [hj, hj.ne]
  · by_cases heq : j = calls.length
    · simp [heq]
    · have hlt : 0 < j - calls.length := by omega
      simp [hj, heq, Nat.sub_ne_zero_of_lt (Nat.lt_of_sub_pos hlt)]

variable {calls : List (Option AuthCall)}

/-- A call that goes on loads as before. -/
theorem loadsAt_set_some (hcall : calls[i]? = some (some call))
    (hnext : next.loads = call.loads) :
    LoadsAt (calls.set i (some next)) j ↔ LoadsAt calls j := by
  have hi : i < calls.length := (List.getElem?_eq_some_iff.mp hcall).1
  by_cases hij : i = j
  · subst hij
    simp only [LoadsAt, List.getElem?_set_self hi, hcall, Option.some.injEq]
    simp [hnext]
  · simp [LoadsAt, List.getElem?_set_ne hij]

/-- A call that has ended does not load. -/
theorem loadsAt_set_none : LoadsAt (calls.set i none) j ↔ j ≠ i ∧ LoadsAt calls j := by
  by_cases hij : i = j
  · subst hij
    simp only [LoadsAt, ne_eq, not_true_eq_false, false_and, iff_false, not_exists]
    rintro call ⟨hcall, -⟩
    rw [List.getElem?_set_self'] at hcall
    cases h : calls[i]? <;> simp [h] at hcall
  · simp [LoadsAt, List.getElem?_set_ne hij, Ne.symm hij]

/-- Launching a call that loads puts one in flight. -/
theorem inFlight_append : InFlight (calls ++ [some call]) ↔ InFlight calls ∨ call.loads = true := by
  simp [InFlight, loadsAt_append, exists_or]

/-- A call that goes on stays in flight. -/
theorem inFlight_set_some (hcall : calls[i]? = some (some call))
    (hnext : next.loads = call.loads) :
    InFlight (calls.set i (some next)) ↔ InFlight calls := by
  simp only [InFlight, loadsAt_set_some hcall hnext]

/-- The end of a call that does not load leaves the others in flight. -/
theorem inFlight_set_none_of_not_loads (hcall : calls[i]? = some (some call))
    (hloads : call.loads = false) : InFlight (calls.set i none) ↔ InFlight calls := by
  have hi : ∀ j, LoadsAt calls j → j ≠ i := by
    rintro j ⟨other, hother, hload⟩ rfl
    simp_all
  simp only [InFlight, loadsAt_set_none]
  exact exists_congr fun j => and_iff_right_of_imp (hi j)

/-- The two outcomes of a coroutine that goes on. -/
theorem resume_cases (auth : FirebaseAuth) (hcall : model.calls[i]? = some (some call)) :
    (∃ next, (fold auth model call).2 = some next ∧ next.loads = call.loads ∧
      model.resume auth i =
        { (fold auth model call).1 with calls := model.calls.set i (some next) }) ∨
    ((fold auth model call).2 = none ∧
      model.resume auth i =
        { (fold auth model call).1 with
          isLoading := if call.loads then false else model.isLoading
          calls := model.calls.set i none }) := by
  obtain ⟨-, -, hloads⟩ := fold_frame auth model call
  rcases hfold : fold auth model call with ⟨model', _ | next⟩
  · exact Or.inr ⟨rfl, by simp [resume, hcall, hfold]⟩
  · exact Or.inl ⟨next, rfl, hloads next (by rw [hfold]), by simp [resume, hcall, hfold]⟩

/-- The flag says whether a call is in flight. -/
def Faithful (model : AuthViewModel) : Prop :=
  model.isLoading = true ↔ InFlight model.calls

/-- Right after a launch, `isLoading` is set and a call loads. -/
theorem faithful_launch (hloads : call.loads = true) : (model.launch call).Faithful := by
  simp [Faithful, launch, inFlight_append, hloads]

/-- Resuming a call keeps `isLoading` right exactly if no other loading call goes on behind it. -/
theorem faithful_resume_iff (h : model.Faithful) :
    (model.resume auth i).Faithful ↔ EndsAlone (auth, model) (.resume i) := by
  cases hcall : model.calls[i]? with
  | none => simpa [resume, EndsAlone, hcall] using h
  | some call =>
      cases call with
      | none => simpa [resume, EndsAlone, hcall] using h
      | some call =>
          obtain ⟨hflag, -, -⟩ := fold_frame auth model call
          obtain ⟨next, hnext, hloads, heq⟩ | ⟨hnext, heq⟩ := resume_cases auth hcall
          · simp only [Faithful, heq, hflag, inFlight_set_some hcall hloads, EndsAlone, hcall]
            simpa [hnext, Faithful] using h
          · simp only [Faithful, heq, EndsAlone, hcall, Option.some.injEq, forall_eq', hnext,
              forall_true_left]
            cases hload : call.loads with
            | false => simpa [inFlight_set_none_of_not_loads hcall hload, Faithful] using h
            | true =>
                simp only [if_true, Bool.false_eq_true, false_iff, InFlight, loadsAt_set_none,
                  not_exists, not_and, forall_true_left]
                exact forall_congr' fun j => not_imp_not

/-- **Step lemma:** the same for every event. -/
theorem faithful_step_iff (h : model.Faithful) (event : Event) :
    (step (auth, model) event).2.Faithful ↔ EndsAlone (auth, model) event := by
  cases event with
  | resume i => exact faithful_resume_iff h
  | signIn email password =>
      refine iff_of_true ?_ trivial
      simp only [step, signIn]
      split
      · exact h
      · exact faithful_launch rfl
  | register name email password confirmPassword =>
      refine iff_of_true ?_ trivial
      simp only [step, register]
      split_ifs
      · exact h
      · exact h
      · exact h
      · exact faithful_launch rfl
  | signInWithGoogle idToken => exact iff_of_true (faithful_launch rfl) trivial
  | sendPasswordReset email =>
      refine iff_of_true ?_ trivial
      simp only [step, sendPasswordReset]
      split
      · exact h
      · simpa [Faithful, inFlight_append, AuthCall.loads] using h
  | signOut => exact iff_of_true h trivial
  | clearError => exact iff_of_true h trivial
  | elsewhere auth => exact iff_of_true h trivial
  | answer i a =>
      refine iff_of_true ?_ trivial
      cases hcall : model.calls[i]? with
      | none => simpa [step, answer, hcall] using h
      | some call =>
          cases call with
          | none => simpa [step, answer, hcall] using h
          | some call =>
              simpa [Faithful, step, answer, hcall,
                inFlight_set_some hcall (loads_answer a auth call)] using h

/-- `isLoading` says at every point of a run whether a call is in flight, just when no call of
the run ends while another one is in flight. -/
theorem isLoading_iff_of_endsAlone (auth : FirebaseAuth) (events : List Event) :
    (∀ pre, pre <+: events →
      ((run step (auth, create auth) pre).2.isLoading = true ↔
        InFlight (run step (auth, create auth) pre).2.calls)) ↔
    AllSteps step EndsAlone (auth, create auth) events := by
  refine forall_prefix_iff_of_step
    (I := fun s : FirebaseAuth × AuthViewModel => s.2.Faithful) ?_ ?_ events
  · rintro ⟨auth, model⟩ event h
    exact faithful_step_iff h event
  · simp [Faithful, create, InFlight, LoadsAt]

end AuthViewModel

end SpendCraft
