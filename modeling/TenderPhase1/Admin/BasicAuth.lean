import TenderPhase1.Admin.CsrfTokens
import TenderPhase1.Foundation.JsonText

/-!
# Users and roles

The users of the admin pages are configured as a JSON text. The settings check the text once, and every request reads
it again with a model of its own, compares the credentials with user after user and then the role with the one that the
page requires.
-/

namespace TenderPhase1.Admin

open JsonText PyText

variable {Float : Type}

/-! ## Roles -/

inductive UserRole where
  | viewer
  | ops
  | admin
  deriving DecidableEq, Repr

def UserRole.value : UserRole → String
  | .viewer => "viewer"
  | .ops => "ops"
  | .admin => "admin"

def userRoles : List UserRole := [.viewer, .ops, .admin]

/-- `_ROLE_LEVELS` -/
def UserRole.level : UserRole → ℕ
  | .viewer => 1
  | .ops => 2
  | .admin => 3

def hasRequiredRole (userRole requiredRole : UserRole) : Bool := requiredRole.level ≤ userRole.level

/-! ## The settings -/

section Settings

variable (floats : FloatFormat Float)

/-- `AUTH_BASIC_ALLOWED_ROLES`, sorted -/
def authBasicAllowedRoles : List String := ["admin", "ops", "viewer"]

def checkUserField (entries : List (String × Value Float)) (index : ℕ) (key : String) : Except String String :=
  match entries.lookup key with
  | some (.str text) =>
    if strip text = "" then
      .error ("AUTH_BASIC_USERS_JSON[" ++ toString index ++ "]." ++ key ++ " must be a non-empty string")
    else .ok text
  | _ => .error ("AUTH_BASIC_USERS_JSON[" ++ toString index ++ "]." ++ key ++ " must be a non-empty string")

def checkUserItem (index : ℕ) : Value Float → Except String Unit
  | .dict entries => do
    let _ ← checkUserField entries index "username"
    let _ ← checkUserField entries index "password"
    let role ← checkUserField entries index "role"
    if authBasicAllowedRoles.contains (strip role) then .ok ()
    else
      .error ("AUTH_BASIC_USERS_JSON[" ++ toString index ++ "].role must be one of: " ++
        String.intercalate ", " authBasicAllowedRoles)
  | _ => .error ("AUTH_BASIC_USERS_JSON[" ++ toString index ++ "] must be an object")

def checkUserItems (index : ℕ) : List (Value Float) → Except String Unit
  | [] => .ok ()
  | item :: items => do
    checkUserItem index item
    checkUserItems (index + 1) items

/-- `_validate_auth_basic_users_json` of a text without blanks around it -/
def validateAuthBasicUsersJson (value : String) : Except String String :=
  if value = "" then .ok value
  else
    match loads floats value.toList with
    | some (.list items) => do
      checkUserItems 0 items
      .ok value
    | _ => .error "AUTH_BASIC_USERS_JSON must be a JSON array"

/-- The setting: `_normalize_string_value`, then the check. -/
def authBasicUsersJson (raw : String) : Except String String := validateAuthBasicUsersJson floats (strip raw)

end Settings

/-! ## A request -/

structure ConfiguredAuthUser where
  username : String
  password : String
  role : UserRole
  deriving DecidableEq, Repr

structure AuthenticatedUser where
  username : String
  role : UserRole
  deriving DecidableEq, Repr

/-- The credentials of a request, which FastAPI has decoded as ASCII. -/
structure Credentials where
  username : String
  password : String
  username_ascii : IsAscii username
  password_ascii : IsAscii password

/-- How a request is refused: with 401, 503 or 403, or by the `TypeError` of a comparison. -/
inductive AuthError where
  | unauthorized (detail : String)
  | unavailable (detail : String)
  | forbidden (detail : String)
  | typeError
  deriving DecidableEq, Repr

section Requests

variable (floats : FloatFormat Float)

/-- `_ConfiguredAuthUser.model_validate` -/
def modelValidateUser : Value Float → Option ConfiguredAuthUser
  | .dict entries =>
    match entries.lookup "username", entries.lookup "password", entries.lookup "role" with
    | some (.str username), some (.str password), some (.str role) =>
      (userRoles.find? (·.value = role)).map fun role ↦ ⟨username, password, role⟩
    | _, _, _ => none
  | _ => none

def parseConfiguredUsers (rawValue : String) : Except String (List ConfiguredAuthUser) :=
  let text := strip rawValue
  if text = "" then .ok []
  else
    match loads floats text.toList with
    | some (.list items) =>
      match items.mapM modelValidateUser with
      | some users => .ok users
      | none => .error "AUTH_BASIC_USERS_JSON 配置无效，必须包含 username/password/role"
    | _ => .error "AUTH_BASIC_USERS_JSON 配置无效，必须是 JSON 数组"

/-- The loop of `get_current_user` -/
def findUser (credentials : Credentials) : List ConfiguredAuthUser → Except AuthError AuthenticatedUser
  | [] => .error (.unauthorized "invalid credentials")
  | user :: users => do
    let usernameMatches ← compareDigest AuthError.typeError user.username credentials.username
    let passwordMatches ← compareDigest AuthError.typeError user.password credentials.password
    if usernameMatches && passwordMatches then .ok ⟨user.username, user.role⟩ else findUser credentials users

def getCurrentUser (usersJson : String) (credentials : Option Credentials) : Except AuthError AuthenticatedUser :=
  match credentials with
  | none => .error (.unauthorized "authentication required")
  | some credentials =>
    match parseConfiguredUsers floats usersJson with
    | .error detail => .error (.unavailable detail)
    | .ok [] => .error (.unauthorized "authentication required")
    | .ok users => findUser credentials users

def requireMinRole (requiredRole : UserRole) (usersJson : String) (credentials : Option Credentials) :
    Except AuthError AuthenticatedUser := do
  let user ← getCurrentUser floats usersJson credentials
  if hasRequiredRole user.role requiredRole then .ok user
  else .error (.forbidden (requiredRole.value ++ " role required"))

end Requests

/-! ## What the settings say -/

structure UserEntry where
  username : String
  password : String
  role : String
  deriving DecidableEq, Repr

def userEntry : Value Float → Option UserEntry
  | .dict entries =>
    match entries.lookup "username", entries.lookup "password", entries.lookup "role" with
    | some (.str username), some (.str password), some (.str role) => some ⟨username, password, role⟩
    | _, _, _ => none
  | _ => none

/-- The users that a checked setting names. -/
def configuredEntries (floats : FloatFormat Float) (value : String) : List UserEntry :=
  match loads floats value.toList with
  | some (.list items) => items.filterMap userEntry
  | _ => []

def UserEntry.IsAscii (entry : UserEntry) : Prop := Admin.IsAscii entry.username ∧ Admin.IsAscii entry.password

instance (entry : UserEntry) : Decidable entry.IsAscii := inferInstanceAs (Decidable (_ ∧ _))

def UserEntry.Matches (entry : UserEntry) (credentials : Credentials) : Prop :=
  entry.username = credentials.username ∧ entry.password = credentials.password

section Spec

variable {floats : FloatFormat Float} {item : Value Float} {items : List (Value Float)} {index : ℕ} {raw value : String}

theorem strip_of_authBasicUsersJson (h : authBasicUsersJson floats raw = .ok value) : strip value = value := by
  have hvalue : value = strip raw := by
    unfold authBasicUsersJson validateAuthBasicUsersJson at h
    split_ifs at h with hempty
    · exact (Except.ok.inj h).symm
    · split at h
      · cases hcheck : checkUserItems 0 _ with
        | error message =>
          rw [hcheck] at h
          cases h
        | ok _ =>
          rw [hcheck] at h
          exact (Except.ok.inj h).symm
      · cases h
  rw [hvalue, strip_strip]

/-- The role of an entry whose role has no blanks around it. -/
def UserEntry.user (entry : UserEntry) : ConfiguredAuthUser :=
  ⟨entry.username, entry.password, (userRoles.find? (·.value = entry.role)).getD .viewer⟩

/-- An entry whose role is one of the three, up to blanks. -/
def UserEntry.Allowed (entry : UserEntry) : Prop := strip entry.role ∈ authBasicAllowedRoles

theorem UserEntry.value_role_user {entry : UserEntry} (h : entry.Allowed) (hrole : strip entry.role = entry.role) :
    entry.user.role.value = entry.role ∧
      (userRoles.find? (·.value = entry.role)).map
          (fun role ↦ (⟨entry.username, entry.password, role⟩ : ConfiguredAuthUser)) = some entry.user := by
  obtain ⟨username, password, role⟩ := entry
  rw [UserEntry.Allowed, hrole] at h
  simp only [authBasicAllowedRoles, List.mem_cons, List.not_mem_nil, or_false] at h
  rcases h with rfl | rfl | rfl <;> exact ⟨rfl, rfl⟩

theorem find?_role_eq_none {role : String} (hrole : strip role ≠ role) : userRoles.find? (·.value = role) = none := by
  rw [List.find?_eq_none]
  intro found hfound hvalue
  have hstrip : strip found.value = found.value := by cases found <;> decide +kernel
  rw [of_decide_eq_true hvalue] at hstrip
  exact hrole hstrip

theorem modelValidateUser_eq (item : Value Float) : modelValidateUser item = (userEntry item).bind fun entry ↦
    (userRoles.find? (·.value = entry.role)).map fun role ↦ ⟨entry.username, entry.password, role⟩ := by
  unfold modelValidateUser userEntry
  split
  · split <;> rfl
  · rfl

theorem text_of_checkUserField {entries : List (String × Value Float)} {key text : String}
    (h : checkUserField entries index key = .ok text) : entries.lookup key = some (.str text) := by
  unfold checkUserField at h
  split at h
  · split_ifs at h
    rename_i hlookup _
    rw [hlookup, Except.ok.inj h]
  · cases h

/-- An item that passes the check is a user with a role that is allowed up to blanks. -/
theorem allowed_of_checkUserItem (h : checkUserItem index item = .ok ()) :
    ∃ entry, userEntry item = some entry ∧ entry.Allowed := by
  unfold checkUserItem at h
  split at h
  · rename_i entries
    cases husername : checkUserField entries index "username" with
    | error message =>
      rw [husername] at h
      cases h
    | ok username =>
      cases hpassword : checkUserField entries index "password" with
      | error message =>
        rw [husername, hpassword] at h
        cases h
      | ok password =>
        cases hrole : checkUserField entries index "role" with
        | error message =>
          rw [husername, hpassword, hrole] at h
          cases h
        | ok role =>
          rw [husername, hpassword, hrole] at h
          refine ⟨⟨username, password, role⟩, ?_, ?_⟩
          · rw [userEntry, text_of_checkUserField husername, text_of_checkUserField hpassword,
              text_of_checkUserField hrole]
          · by_contra hnot
            have hmem : strip role ∉ authBasicAllowedRoles := hnot
            simp only [bind, Except.bind, List.contains_iff_mem, hmem, if_false] at h
            cases h
  · cases h

theorem allowed_of_checkUserItems (h : checkUserItems index items = .ok ()) :
    ∀ item ∈ items, ∃ entry, userEntry item = some entry ∧ entry.Allowed := by
  induction items generalizing index with
  | nil => exact List.forall_mem_nil _
  | cons item items ih =>
    rw [checkUserItems] at h
    cases hitem : checkUserItem index item with
    | error message =>
      rw [hitem] at h
      cases h
    | ok _ =>
      rw [hitem] at h
      exact List.forall_mem_cons.mpr ⟨allowed_of_checkUserItem hitem, ih h⟩

/-- What the model of a request makes of items that the settings have let through. -/
theorem mapM_modelValidateUser (h : ∀ item ∈ items, ∃ entry, userEntry item = some entry ∧ entry.Allowed) :
    ((∀ entry ∈ items.filterMap userEntry, strip entry.role = entry.role) →
        items.mapM modelValidateUser = some ((items.filterMap userEntry).map UserEntry.user)) ∧
      ((∃ entry ∈ items.filterMap userEntry, strip entry.role ≠ entry.role) → items.mapM modelValidateUser = none) := by
  induction items with
  | nil => exact ⟨fun _ ↦ rfl, fun ⟨_, hmem, _⟩ ↦ absurd hmem List.not_mem_nil⟩
  | cons item items ih =>
    obtain ⟨⟨entry, hentry, hallowed⟩, hitems⟩ := List.forall_mem_cons.mp h
    obtain ⟨hgood, hbad⟩ := ih hitems
    rw [List.mapM_cons, modelValidateUser_eq, hentry, Option.bind_some, List.filterMap_cons_some hentry]
    constructor
    · intro hroles
      obtain ⟨hrole, hroles⟩ := List.forall_mem_cons.mp hroles
      rw [(entry.value_role_user hallowed hrole).2, hgood hroles]
      rfl
    · rintro ⟨padded, hmem, hrole⟩
      by_cases hfirst : strip entry.role = entry.role
      · rw [(entry.value_role_user hallowed hfirst).2]
        rcases List.mem_cons.mp hmem with rfl | hrest
        · exact absurd hfirst hrole
        · rw [hbad ⟨padded, hrest, hrole⟩]
          rfl
      · rw [find?_role_eq_none hfirst]
        rfl

/-- What the settings accept is empty or a list of users that pass the checks. -/
theorem accepted_of_authBasicUsersJson (h : authBasicUsersJson floats raw = .ok value) :
    value = "" ∨ ∃ items, loads floats value.toList = some (.list items) ∧ checkUserItems 0 items = .ok () := by
  have hstrip := strip_of_authBasicUsersJson h
  unfold authBasicUsersJson validateAuthBasicUsersJson at h
  split_ifs at h with hempty
  · left
    rw [← Except.ok.inj h, hempty]
  · right
    split at h
    · rename_i items hloads
      cases hcheck : checkUserItems 0 items with
      | error message =>
        rw [hcheck] at h
        cases h
      | ok _ =>
        rw [hcheck] at h
        rw [Except.ok.inj h] at hloads
        exact ⟨items, hloads, hcheck⟩
    · cases h

/-- A request reads the users of a checked setting, unless there are blanks around a role. -/
theorem parseConfiguredUsers_of_accepted (h : authBasicUsersJson floats raw = .ok value) :
    ((∀ entry ∈ configuredEntries floats value, strip entry.role = entry.role) →
        parseConfiguredUsers floats value = .ok ((configuredEntries floats value).map UserEntry.user)) ∧
      ((∃ entry ∈ configuredEntries floats value, strip entry.role ≠ entry.role) →
        parseConfiguredUsers floats value = .error "AUTH_BASIC_USERS_JSON 配置无效，必须包含 username/password/role") := by
  have hstrip := strip_of_authBasicUsersJson h
  rcases accepted_of_authBasicUsersJson h with rfl | ⟨items, hloads, hcheck⟩
  · exact ⟨fun _ ↦ rfl, fun ⟨_, hmem, _⟩ ↦ absurd hmem List.not_mem_nil⟩
  · have hne : value ≠ "" := by
      rintro rfl
      cases hloads
    have hentries : configuredEntries floats value = items.filterMap userEntry := by
      rw [configuredEntries, hloads]
    obtain ⟨hgood, hbad⟩ := mapM_modelValidateUser (allowed_of_checkUserItems hcheck)
    have hparse : parseConfiguredUsers floats value = match items.mapM modelValidateUser with
        | some users => .ok users
        | none => .error "AUTH_BASIC_USERS_JSON 配置无效，必须包含 username/password/role" := by
      simp only [parseConfiguredUsers, hstrip, if_neg hne, hloads]
    rw [hentries, hparse]
    constructor
    · intro hroles
      rw [hgood hroles]
    · intro hroles
      rw [hbad hroles]

/-! ### The loop -/

/-- A user that the loop leaves behind. -/
def LeftBehind (credentials : Credentials) (username password : String) : Prop :=
  (IsAscii username ∧ IsAscii password) ∧ ¬(username = credentials.username ∧ password = credentials.password)

instance (credentials : Credentials) (username password : String) :
    Decidable (LeftBehind credentials username password) := inferInstanceAs (Decidable (_ ∧ _))

theorem findUser_cons (credentials : Credentials) (user : ConfiguredAuthUser) (users : List ConfiguredAuthUser) :
    findUser credentials (user :: users) =
      if LeftBehind credentials user.username user.password then findUser credentials users
      else if IsAscii user.username ∧ IsAscii user.password then .ok ⟨user.username, user.role⟩
      else .error .typeError := by
  by_cases husername : IsAscii user.username <;> by_cases hpassword : IsAscii user.password
  · by_cases hmatches : user.username = credentials.username ∧ user.password = credentials.password
    · simp [findUser, compareDigest, LeftBehind, hmatches, credentials.username_ascii,
        credentials.password_ascii, bind, Except.bind]
    · simp [findUser, compareDigest, LeftBehind, husername, hpassword, hmatches, credentials.username_ascii,
        credentials.password_ascii, bind, Except.bind]
  all_goals
    simp [findUser, compareDigest, LeftBehind, husername, hpassword, credentials.username_ascii,
      credentials.password_ascii, bind, Except.bind]

/-- The loop stops at the first user that it does not leave behind. -/
theorem findUser_eq (credentials : Credentials) (users : List ConfiguredAuthUser) :
    findUser credentials users =
      match users.find? (fun user ↦ ¬LeftBehind credentials user.username user.password) with
      | none => .error (.unauthorized "invalid credentials")
      | some user =>
        if IsAscii user.username ∧ IsAscii user.password then .ok ⟨user.username, user.role⟩
        else .error .typeError := by
  induction users with
  | nil => rfl
  | cons user users ih =>
    rw [findUser_cons, List.find?_cons]
    by_cases hleft : LeftBehind credentials user.username user.password
    · simpa [hleft] using ih
    · simp [hleft]

theorem allowed_of_mem_configuredEntries (h : authBasicUsersJson floats raw = .ok value) :
    ∀ entry ∈ configuredEntries floats value, entry.Allowed := by
  intro entry hmem
  rcases accepted_of_authBasicUsersJson h with rfl | ⟨items, hloads, hcheck⟩
  · exact absurd hmem List.not_mem_nil
  · rw [configuredEntries, hloads, List.mem_filterMap] at hmem
    obtain ⟨item, hitem, hentry⟩ := hmem
    obtain ⟨found, hfound, hallowed⟩ := allowed_of_checkUserItems hcheck item hitem
    rw [hfound] at hentry
    exact Option.some.inj hentry ▸ hallowed

/-- The entry at which the loop stops. -/
def stoppingEntry (given : Credentials) (entries : List UserEntry) : Option UserEntry :=
  entries.find? fun entry ↦ ¬LeftBehind given entry.username entry.password

theorem stoppingEntry_eq_some_iff {given : Credentials} {entries : List UserEntry} {entry : UserEntry} :
    stoppingEntry given entries = some entry ↔
      ¬(entry.IsAscii ∧ ¬entry.Matches given) ∧
        ∃ before after, entries = before ++ entry :: after ∧
          ∀ earlier ∈ before, earlier.IsAscii ∧ ¬earlier.Matches given := by
  rw [stoppingEntry, List.find?_eq_some_iff_append]
  simp only [decide_eq_true_eq, Bool.not_eq_true', decide_eq_false_iff_not, not_not]
  rfl

/-- A request is answered by the entry at which the loop stops. -/
theorem getCurrentUser_of_roles (h : authBasicUsersJson floats raw = .ok value)
    (hroles : ∀ entry ∈ configuredEntries floats value, strip entry.role = entry.role) (given : Credentials) :
    getCurrentUser floats value (some given) =
      match stoppingEntry given (configuredEntries floats value) with
      | none =>
        .error (.unauthorized
          (if configuredEntries floats value = [] then "authentication required" else "invalid credentials"))
      | some entry =>
        if entry.IsAscii then .ok ⟨entry.username, entry.user.role⟩ else .error .typeError := by
  have hparse := (parseConfiguredUsers_of_accepted h).1 hroles
  cases hentries : configuredEntries floats value with
  | nil =>
    rw [hentries] at hparse
    simp [getCurrentUser, hparse, stoppingEntry]
  | cons first rest =>
    rw [hentries] at hparse
    have hfind : getCurrentUser floats value (some given) = findUser given ((first :: rest).map UserEntry.user) := by
      simp only [getCurrentUser, hparse, List.map_cons]
    rw [hfind, findUser_eq, List.find?_map, if_neg (List.cons_ne_nil _ _)]
    change (match Option.map UserEntry.user (stoppingEntry given (first :: rest)) with
      | none => _
      | some user => _) = _
    cases stoppingEntry given (first :: rest) with
    | none => rfl
    | some entry => rfl

theorem UserEntry.role_eq_iff {entry : UserEntry} (h : entry.Allowed) (hrole : strip entry.role = entry.role)
    {role : UserRole} : role = entry.user.role ↔ role.value = entry.role := by
  have hvalue := (UserEntry.value_role_user h hrole).1
  constructor
  · rintro rfl
    exact hvalue
  · intro heq
    rw [← hvalue] at heq
    revert heq
    cases role <;> cases entry.user.role <;> decide +kernel

/-- What a page makes of a request when no role has blanks around it. -/
theorem requireMinRole_of_roles (h : authBasicUsersJson floats raw = .ok value)
    (hroles : ∀ entry ∈ configuredEntries floats value, strip entry.role = entry.role) (requiredRole : UserRole)
    (given : Credentials) :
    (∀ user, requireMinRole floats requiredRole value (some given) = .ok user ↔
        ∃ entry, stoppingEntry given (configuredEntries floats value) = some entry ∧ entry.IsAscii ∧
          user = ⟨entry.username, entry.user.role⟩ ∧ requiredRole.level ≤ user.role.level) ∧
      (∀ detail, requireMinRole floats requiredRole value (some given) ≠ .error (.unavailable detail)) ∧
      (requireMinRole floats requiredRole value (some given) = .error .typeError ↔
        ∃ entry, stoppingEntry given (configuredEntries floats value) = some entry ∧ ¬entry.IsAscii) := by
  cases hstop : stoppingEntry given (configuredEntries floats value) with
  | none => simp [requireMinRole, getCurrentUser_of_roles h hroles, hstop, bind, Except.bind]
  | some entry =>
    by_cases hascii : entry.IsAscii
    · by_cases hlevel : requiredRole.level ≤ entry.user.role.level
      · have hpage : requireMinRole floats requiredRole value (some given) = .ok ⟨entry.username, entry.user.role⟩ := by
          simp [requireMinRole, getCurrentUser_of_roles h hroles, hstop, hascii, hasRequiredRole, hlevel, bind,
            Except.bind]
        rw [hpage]
        refine ⟨fun user ↦ ⟨?_, ?_⟩, fun _ ↦ nofun, nofun, ?_⟩
        · intro huser
          obtain rfl := Except.ok.inj huser
          exact ⟨entry, rfl, hascii, rfl, hlevel⟩
        · rintro ⟨found, hfound, -, rfl, -⟩
          rw [Option.some.inj hfound]
        · rintro ⟨found, hfound, hnot⟩
          rw [Option.some.inj hfound] at hascii
          exact absurd hascii hnot
      · have hpage : requireMinRole floats requiredRole value (some given) =
            .error (.forbidden (requiredRole.value ++ " role required")) := by
          simp [requireMinRole, getCurrentUser_of_roles h hroles, hstop, hascii, hasRequiredRole, hlevel, bind,
            Except.bind]
        rw [hpage]
        refine ⟨fun user ↦ ⟨nofun, ?_⟩, fun _ ↦ nofun, nofun, ?_⟩
        · rintro ⟨found, hfound, -, rfl, hfits⟩
          rw [Option.some.inj hfound] at hlevel
          exact absurd hfits hlevel
        · rintro ⟨found, hfound, hnot⟩
          rw [Option.some.inj hfound] at hascii
          exact absurd hascii hnot
    · have hpage : requireMinRole floats requiredRole value (some given) = .error .typeError := by
        simp [requireMinRole, getCurrentUser_of_roles h hroles, hstop, hascii, bind, Except.bind]
      rw [hpage]
      refine ⟨fun user ↦ ⟨nofun, ?_⟩, fun _ ↦ nofun, fun _ ↦ ⟨entry, rfl, hascii⟩, fun _ ↦ rfl⟩
      rintro ⟨found, hfound, hfits, -⟩
      rw [Option.some.inj hfound] at hascii
      exact absurd hfits hascii

/-- What a page makes of a request when there are blanks around a role. -/
theorem requireMinRole_of_padded (h : authBasicUsersJson floats raw = .ok value)
    (hpadded : ∃ entry ∈ configuredEntries floats value, strip entry.role ≠ entry.role) (requiredRole : UserRole)
    (given : Credentials) :
    requireMinRole floats requiredRole value (some given) =
      .error (.unavailable "AUTH_BASIC_USERS_JSON 配置无效，必须包含 username/password/role") := by
  rw [requireMinRole, getCurrentUser, (parseConfiguredUsers_of_accepted h).2 hpadded]
  rfl

/-- Whatever text the settings accept, a page grants a request exactly where no role of the text has blanks around it and
the first user that is not a plain text other than the credentials is the user of the credentials, with a role that is
high enough. One padded role shuts every user out; a user whose name or password is not ASCII fails the requests of
every user after it. -/
theorem requireMinRole_iff (h : authBasicUsersJson floats raw = .ok value) (requiredRole : UserRole)
    (credentials : Option Credentials) :
    (∀ user, requireMinRole floats requiredRole value credentials = .ok user ↔
        (∀ entry ∈ configuredEntries floats value, strip entry.role = entry.role) ∧
          ∃ given ∈ credentials, ∃ before entry after, configuredEntries floats value = before ++ entry :: after ∧
            (∀ earlier ∈ before, earlier.IsAscii ∧ ¬earlier.Matches given) ∧ entry.Matches given ∧
            user.username = entry.username ∧ user.role.value = entry.role ∧ requiredRole.level ≤ user.role.level) ∧
      ((∃ detail, requireMinRole floats requiredRole value credentials = .error (.unavailable detail)) ↔
        credentials.isSome ∧ ∃ entry ∈ configuredEntries floats value, strip entry.role ≠ entry.role) ∧
      (requireMinRole floats requiredRole value credentials = .error .typeError ↔
        (∀ entry ∈ configuredEntries floats value, strip entry.role = entry.role) ∧
          ∃ given ∈ credentials, ∃ before entry after, configuredEntries floats value = before ++ entry :: after ∧
            (∀ earlier ∈ before, earlier.IsAscii ∧ ¬earlier.Matches given) ∧ ¬entry.IsAscii) := by
  cases credentials with
  | none =>
    have hpage : requireMinRole floats requiredRole value none = .error (.unauthorized "authentication required") := rfl
    rw [hpage]
    simp
  | some given =>
    by_cases hroles : ∀ entry ∈ configuredEntries floats value, strip entry.role = entry.role
    · obtain ⟨hok, havailable, htype⟩ := requireMinRole_of_roles h hroles requiredRole given
      refine ⟨fun user ↦ ?_, ?_, ?_⟩
      · rw [hok user]
        constructor
        · rintro ⟨entry, hstop, hascii, rfl, hlevel⟩
          obtain ⟨hstops, before, after, hentries, hbefore⟩ := stoppingEntry_eq_some_iff.mp hstop
          have hmatches : entry.Matches given := by
            by_contra hnot
            exact hstops ⟨hascii, hnot⟩
          have hmem : entry ∈ configuredEntries floats value := hentries ▸ by simp
          have hrole := (UserEntry.value_role_user (allowed_of_mem_configuredEntries h entry hmem)
            (hroles entry hmem)).1
          exact ⟨hroles, given, rfl, before, entry, after, hentries, hbefore, hmatches, rfl, hrole, hlevel⟩
        · rintro ⟨-, _, ⟨rfl⟩, before, entry, after, hentries, hbefore, hmatches, hname, hrole, hlevel⟩
          have hmem : entry ∈ configuredEntries floats value := hentries ▸ by simp
          have hstop : stoppingEntry given (configuredEntries floats value) = some entry :=
            stoppingEntry_eq_some_iff.mpr ⟨fun hpasses ↦ hpasses.2 hmatches, before, after, hentries, hbefore⟩
          have hascii : entry.IsAscii := by
            rw [UserEntry.IsAscii, hmatches.1, hmatches.2]
            exact ⟨given.username_ascii, given.password_ascii⟩
          have huser : user.role = entry.user.role :=
            (UserEntry.role_eq_iff (allowed_of_mem_configuredEntries h entry hmem) (hroles entry hmem)).mpr hrole
          refine ⟨entry, hstop, hascii, ?_, hlevel⟩
          rw [← hname, ← huser]
      · refine ⟨fun ⟨detail, hdetail⟩ ↦ absurd hdetail (havailable detail), ?_⟩
        rintro ⟨-, entry, hmem, hrole⟩
        exact absurd (hroles entry hmem) hrole
      · rw [htype]
        constructor
        · rintro ⟨entry, hstop, hascii⟩
          obtain ⟨-, before, after, hentries, hbefore⟩ := stoppingEntry_eq_some_iff.mp hstop
          exact ⟨hroles, given, rfl, before, entry, after, hentries, hbefore, hascii⟩
        · rintro ⟨-, _, ⟨rfl⟩, before, entry, after, hentries, hbefore, hascii⟩
          exact ⟨entry, stoppingEntry_eq_some_iff.mpr
            ⟨fun hpasses ↦ hascii hpasses.1, before, after, hentries, hbefore⟩, hascii⟩
    · have hpadded : ∃ entry ∈ configuredEntries floats value, strip entry.role ≠ entry.role := by
        push Not at hroles
        exact hroles
      rw [requireMinRole_of_padded h hpadded requiredRole given]
      refine ⟨fun user ↦ ⟨nofun, fun hgranted ↦ absurd hgranted.1 hroles⟩,
        ⟨fun _ ↦ ⟨rfl, hpadded⟩, fun _ ↦ ⟨_, rfl⟩⟩, nofun, fun hfails ↦ absurd hfails.1 hroles⟩

end Spec

/-! ### Two users -/

def onlyNaN : FloatFormat Unit := ⟨fun _ ↦ "NaN".toList, fun _ ↦ (), fun _ ↦ .constant List.mem_cons_self, fun _ ↦ rfl⟩

/-- An administrator, and after it a user with the role ops -/
def opsUserText : String :=
  " [\x7b\"username\": \"wang\", \"password\": \"q\", \"role\": \"admin\"\x7d, " ++
    "\x7b\"username\": \"li\", \"password\": \"p\", \"role\": \"ops\"\x7d] "

def opsUser : Credentials := ⟨"li", "p", by decide, by decide⟩

/-- The administrator is left behind. -/
theorem requireMinRole_iff_opsUser : ∃ value, authBasicUsersJson onlyNaN opsUserText = .ok value ∧
    requireMinRole onlyNaN .viewer value (some opsUser) = .ok ⟨"li", .ops⟩ := by
  have haccepted : authBasicUsersJson onlyNaN opsUserText = .ok (strip opsUserText) := by decide +kernel
  have hentries : configuredEntries onlyNaN (strip opsUserText) = [⟨"wang", "q", "admin"⟩, ⟨"li", "p", "ops"⟩] := by
    decide +kernel
  refine ⟨_, haccepted, ((requireMinRole_iff haccepted .viewer (some opsUser)).1 _).mpr ⟨?_, ?_⟩⟩
  · rw [hentries]
    decide +kernel
  · refine ⟨opsUser, rfl, [⟨"wang", "q", "admin"⟩], _, [], hentries, ?_, ⟨rfl, rfl⟩, rfl, rfl, by decide⟩
    exact List.forall_mem_singleton.mpr ⟨by decide +kernel, fun hmatches ↦ absurd hmatches.1 (by decide)⟩

end TenderPhase1.Admin
