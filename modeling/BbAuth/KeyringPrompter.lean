import BbAuth.Library.Decimal
import BbAuth.RequestCalls

open Library
namespace BbAuth

-- printf's %d.
def decimal (value : Nat) : QString := Decimal.digits value

def signedDecimal (value : Int) : QString := Decimal.signed value

-- src/keyring-prompter/bb-prompt.c: what the requests of a BbAuthPrompt read and set.
-- A null pointer is `none`.
structure BbAuthPrompt where
  title : Option QString := none
  message : Option QString := none
  description : Option QString := none
  warning : Option QString := none
  passwordNew : Bool := false
  password : Option QString := none
  requestCookie : Option QString := none
  cancelled : Bool := false
  cookieCounter : Nat := 0

inductive GcrPromptReply where
  | cancel
  | continue
  deriving DecidableEq, Repr

-- What the finish function gets of a task. An error is that the task was cancelled.
inductive TaskResult (α : Type) where
  | error
  | returned (value : α)
  deriving DecidableEq, Repr

namespace BbAuthPrompt

def cookieOf (pid : Nat) (random : Int) (counter : Nat) : QString :=
  text "keyring-" ++ decimal pid ++ text "-" ++ signedDecimal random ++ text "-" ++ decimal counter

def generateCookie (self : BbAuthPrompt) (pid : Nat) (random : Int) : BbAuthPrompt × QString :=
  let self := {self with cookieCounter:=self.cookieCounter + 1}
  (self,cookieOf pid random self.cookieCounter)

-- The request itself runs in a thread.
def passwordAsync (self : BbAuthPrompt) (pid : Nat) (random : Int) : BbAuthPrompt :=
  let (self,cookie) := self.generateCookie pid random
  {self with requestCookie:=some cookie}

def passwordArguments (self : BbAuthPrompt) (cookie : QString) : IpcClient.KeyringArguments :=
  { cookie
    title := some (self.title.getD (text "Unlock Keyring"))
    message := some (self.message.getD (text "Password required"))
    description := self.description
    warning := self.warning
    passwordNew := self.passwordNew }

-- `reply` is the line that answered the request, `cancellable` whether the caller
-- cancelled the task meanwhile.
def passwordRequestThread (self : BbAuthPrompt) (reply : Option QJsonObject) (cancellable : Bool) :
    BbAuthPrompt × TaskResult (Option QString) :=
  let (success,password) := IpcClient.keyringOutcome reply
  if cancellable then (self,.error)
  else if success && password.isSome then ({self with password,cancelled:=false},.returned password)
  else ({self with cancelled:=true},.returned none)

def confirmAsync (self : BbAuthPrompt) (pid : Nat) (random : Int) : BbAuthPrompt := self.passwordAsync pid random

def confirmArguments (self : BbAuthPrompt) (cookie : QString) : IpcClient.ConfirmArguments :=
  { cookie
    title := some (self.title.getD (text "Confirm"))
    message := some (self.message.getD (text "Please confirm"))
    description := self.description }

def confirmRequestThread (reply : Option QJsonObject) (cancellable : Bool) : TaskResult GcrPromptReply :=
  let confirmed := IpcClient.confirmOutcome reply
  if cancellable then .error
  else .returned (if confirmed then .continue else .cancel)

def close (self : BbAuthPrompt) : Option QJsonObject := self.requestCookie.map IpcClient.cancelRequest

end BbAuthPrompt

namespace BbAuthPrompt

-- A cookie tells the process, the random number and the count it was made of.
open Library.Decimal in
theorem cookieOf_eq_iff (pid owner : Nat) (random other : Int) (counter count : Nat) :
    cookieOf pid random counter = cookieOf owner other count ↔ pid = owner ∧ random = other ∧ counter = count := by
  have fields (pid : Nat) (random : Int) (counter : Nat) : cookieOf pid random counter =
      text "keyring-" ++ (decimal pid ++ 0x2D :: (signedDecimal random ++ 0x2D :: decimal counter)) := by
    unfold cookieOf
    simp only [List.append_assoc]
    rfl
  constructor
  · intro same
    rw [fields,fields] at same
    obtain ⟨process,rest⟩ := split_front (x := 0x2D) (digits_unsigned pid) (digits_unsigned owner) (List.append_cancel_left same)
    obtain ⟨number,counted⟩ := split_back (x := 0x2D) (digits_unsigned counter) (digits_unsigned count) rest
    exact ⟨digits_inj process,signed_inj number,digits_inj counted⟩
  · intro same
    obtain ⟨process,number,counted⟩ := same
    rw [process,number,counted]

theorem keyringRequest_cookie (x : RequestCall .keyring) (arguments : IpcClient.KeyringArguments) (named : arguments.cookie ≠ [])
    (asks : x.request = IpcClient.keyringRequest arguments) : x.id = arguments.cookie := by
  apply effectiveCookie_named x.asked _ named
  rw [asks]
  exact cookie_member _ _ _

theorem cookieOf_named (pid : Nat) (random : Int) (counter : Nat) : cookieOf pid random counter ≠ [] := nofun

-- A C string ends at its first NUL.
def upToNul (s : QString) : QString := s.takeWhile (fun c => decide (c ≠ 0))

-- The password that a keyring gets is what an authorized user interface typed in reply
-- to the request of this prompt, and what one types the keyring gets.
theorem password_typed (x : RequestCall .keyring) (proper : x.Proper) (self : BbAuthPrompt) (pid : Nat) (random : Int)
    (cancellable : Bool)
    (asks : x.request = IpcClient.keyringRequest
      ((self.passwordAsync pid random).passwordArguments (cookieOf pid random (self.cookieCounter + 1)))) :
    (∀ password, ((self.passwordAsync pid random).passwordRequestThread x.reply cancellable).2 = .returned (some password) →
      ∃ typed, x.Settled (cookieOf pid random (self.cookieCounter + 1)) (.ok typed) ∧ password = upToNul typed) ∧
    ∀ typed, x.Responded typed → cancellable = false →
      ((self.passwordAsync pid random).passwordRequestThread x.reply cancellable).2 = .returned (some (upToNul typed)) := by
  have named : x.id = cookieOf pid random (self.cookieCounter + 1) := keyringRequest_cookie x _ (cookieOf_named _ _ _) asks
  constructor
  · intro password returned
    unfold passwordRequestThread at returned
    rcases x.reply_settled proper with none | ⟨answer,told,settled⟩
    · rw [none] at returned
      cases cancellable <;> cases returned
    · rw [told] at returned
      cases answer with
      | ok typed =>
        rw [IpcClient.keyringOutcome_ok] at returned
        cases cancellable with
        | true => cases returned
        | false =>
          cases returned
          exact ⟨typed,named ▸ settled,rfl⟩
      | confirmed => cases cancellable <;> cases returned
      | cancelled =>
        rw [IpcClient.keyringOutcome_cancelled] at returned
        cases cancellable <;> cases returned
  · rintro typed responded rfl
    unfold passwordRequestThread
    rw [x.reply_granted proper responded]
    unfold RequestCall.granted
    simp only
    rw [IpcClient.keyringOutcome_ok]
    rfl

-- No user interface can confirm anything to a keyring.
theorem confirm_refused (x : RequestCall .keyring) (proper : x.Proper) (cancellable : Bool) :
    confirmRequestThread x.reply cancellable ≠ .returned .continue := by
  intro continued
  unfold confirmRequestThread at continued
  rcases x.reply_settled proper with none | ⟨answer,told,early,input,late,_,_,ui,msg,_,⟨_,typed | ⟨_,pinentry⟩⟩ | ⟨_,cancelled⟩⟩
  · rw [none] at continued
    cases cancellable <;> cases continued
  · rw [told,typed,IpcClient.confirmOutcome_ok] at continued
    cases cancellable <;> cases continued
  · cases pinentry
  · rw [told,cancelled,IpcClient.confirmOutcome_cancelled] at continued
    cases cancellable <;> cases continued

def loginKeyring : RequestCall .keyring where
  before := [.quiet (.connected 7),.say 0 "ui.register" [("kind","quickshell")]]
  opened := .quiet
  peerPid := 8
  early := []
  asked := .quiet
  request := IpcClient.keyringRequest ((passwordAsync {} 8 (-5)).passwordArguments (cookieOf 8 (-5) 1))
  after := [.say 0 "session.respond" [("id","keyring-8--5-1"),("response","secret")]]

theorem loginKeyring_typed :
    ((passwordAsync {} 8 (-5)).passwordRequestThread loginKeyring.reply false).2 = .returned (some (text "secret")) ∧
    (∀ password, ((passwordAsync {} 8 (-5)).passwordRequestThread loginKeyring.reply false).2 = .returned (some password) →
      ∃ typed, loginKeyring.Settled (cookieOf 8 (-5) 1) (.ok typed) ∧ password = upToNul typed) ∧
    ∀ typed, loginKeyring.Responded typed → false = false →
      ((passwordAsync {} 8 (-5)).passwordRequestThread loginKeyring.reply false).2 = .returned (some (upToNul typed)) :=
  ⟨by decide +kernel,password_typed loginKeyring ⟨by decide +kernel,by decide +kernel⟩ {} 8 (-5) false rfl⟩

end BbAuthPrompt

end BbAuth
