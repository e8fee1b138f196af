import AdminAccess.Http.Message

/-!
# Scripted servers

A script answers requests in place of the identity provider and the admin service.  Requests
fall into kinds; each kind has its own list of answers and the last one repeats.
-/

namespace AdminAccess

/-- An answer that a script gives after a delay.  In the payload the number of the request
may be filled in. -/
structure ScriptedAnswer where
  delay : Nat
  reply : Reply
  deriving Inhabited

namespace ScriptedAnswer

def fillNumberFrom (digits : List Char) : List Char → List Char
  | '\x7b' :: 'n' :: '\x7d' :: rest => digits ++ fillNumberFrom digits rest
  | c :: rest => c :: fillNumberFrom digits rest
  | [] => []

/-- A payload with a number in the place of each mark, if it is text. -/
def fillNumber (n : Nat) (payload : Bytes) : Bytes :=
  match Utf8.decode? payload with
  | some text => Utf8.encodeChars (fillNumberFrom (Nat.toDigits 10 n) text.toList)
  | none => payload

def render (answer : ScriptedAnswer) (n : Nat) : Reply :=
  answer.reply.map fun response => { response with body := fillNumber n response.body }

/-- What is answered where nothing is scripted. -/
def missing : ScriptedAnswer :=
  ⟨0, .error (.connection "no scripted reply")⟩

def nth (answers : List ScriptedAnswer) (n : Nat) : ScriptedAnswer :=
  (answers[n]?.or answers.getLast?).getD missing

end ScriptedAnswer

inductive RequestKind where
  | login
  | refresh
  | logout
  | api
  deriving DecidableEq, Repr, Inhabited

namespace RequestKind

def ofRequest (request : Request) : RequestKind :=
  let body := request.body.getD []
  if "/openid-connect/logout".toList.isSuffixOf request.url.pathText.toList then .logout
  else if (Utf8.encode "grant_type=refresh_token").isPrefixOf body then .refresh
  else if (Utf8.encode "grant_type=").isPrefixOf body then .login
  else .api

end RequestKind

structure Script where
  login : List ScriptedAnswer
  refresh : List ScriptedAnswer
  logout : List ScriptedAnswer
  api : List ScriptedAnswer
  deriving Inhabited

namespace Script

def answers (script : Script) : RequestKind → List ScriptedAnswer
  | .login => script.login
  | .refresh => script.refresh
  | .logout => script.logout
  | .api => script.api

def longestDelay (script : Script) : Nat :=
  (script.login ++ script.refresh ++ script.logout ++ script.api).foldl
    (fun longest answer => max longest answer.delay) 0

end Script

structure Tally where
  login : Nat
  refresh : Nat
  logout : Nat
  api : Nat
  deriving DecidableEq, Repr, Inhabited

namespace Tally

def zero : Tally := ⟨0, 0, 0, 0⟩

def count (tally : Tally) : RequestKind → Nat
  | .login => tally.login
  | .refresh => tally.refresh
  | .logout => tally.logout
  | .api => tally.api

def bump (tally : Tally) : RequestKind → Tally
  | .login => { tally with login := tally.login + 1 }
  | .refresh => { tally with refresh := tally.refresh + 1 }
  | .logout => { tally with logout := tally.logout + 1 }
  | .api => { tally with api := tally.api + 1 }

end Tally

namespace Script

def answer (script : Script) (tally : Tally) (request : Request) : Nat × Reply × Tally :=
  let kind := RequestKind.ofRequest request
  let n := tally.count kind
  let scripted := ScriptedAnswer.nth (script.answers kind) n
  (scripted.delay, scripted.render n, tally.bump kind)

end Script

end AdminAccess
