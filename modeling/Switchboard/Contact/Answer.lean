
set_option autoImplicit false

namespace Switchboard

/-- Answer to a request for friendship. -/
inductive FriendAnswer where
  | accept
  | reject
  | rejectAndBlacklist
deriving DecidableEq

/-- Answer to a request to join a group. -/
inductive JoinAnswer where
  | accept
  | reject
  | ignore
  | rejectAndBlacklist
  | ignoreAndBlacklist
deriving DecidableEq

/-- Answer to an invitation into a group. -/
inductive InvitationAnswer where
  | accept
  | reject
deriving DecidableEq

def FriendAnswer.code : FriendAnswer → Int
  | .accept => 0
  | .reject => 1
  | .rejectAndBlacklist => 2

def JoinAnswer.code : JoinAnswer → Int
  | .accept => 0
  | .reject => 1
  | .ignore => 2
  | .rejectAndBlacklist => 3
  | .ignoreAndBlacklist => 4

def InvitationAnswer.code : InvitationAnswer → Int
  | .accept => 0
  | .reject => 1

end Switchboard
