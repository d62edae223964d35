import Mathlib.Data.List.Forall2
import PgVitals.Proofs.Descriptor.Printed
import PgVitals.Proofs.Text.Cut

/-!
# What masking hides

Logs show a descriptor with its password masked.  In a URI masking looks at the authority, between
the first colon and the last at sign; among pairs it looks at the values under the key of passwords.
A password that stands in these places leaves no trace in the text shown, however it is written, and
without one the text is that of the descriptor.  The parameters of a URI are shown as they are, so a
password among them is shown too.
-/

namespace PgVitals

namespace Uri

open Text

/-! ## The authority -/

/-- The authority with which a user logs in to a host. -/
def login (user password host : String) : String := user ++ ":" ++ password ++ "@" ++ host

theorem toList_login (user password host : String) :
    (login user password host).toList =
      (user.toList ++ ':' :: password.toList) ++ '@' :: host.toList := by
  simp [login, String.toList_append]

theorem redactAuthority_login {user host : String} (huser : ':' ∉ user.toList)
    (hhost : '@' ∉ host.toList) (password : String) :
    redactAuthority (login user password host).toList = (login user KeyValue.mask host).toList := by
  have hlast : cutLast? '@' (login user password host).toList =
      some (user.toList ++ ':' :: password.toList, host.toList) :=
    cutLast?_eq_some_iff.2 ⟨toList_login user password host, hhost⟩
  have hfirst : cutAt? ':' (user.toList ++ ':' :: password.toList) =
      some (user.toList, password.toList) := cutAt?_eq_some_iff.2 ⟨rfl, huser⟩
  have hmask : KeyValue.mask.toList = ['*', '*', '*', '*'] := by decide +kernel
  rw [redactAuthority, hlast]
  simp only [hfirst]
  rw [toList_login, hmask, List.append_assoc]
  rfl

/-- An authority with which nobody logs in by password is not changed. -/
theorem redactAuthority_eq_self {authority : String}
    (h : ∀ user password host : String, ':' ∉ user.toList → '@' ∉ host.toList →
      authority ≠ login user password host) :
    redactAuthority authority.toList = authority.toList := by
  rw [redactAuthority]
  cases hlast : cutLast? '@' authority.toList with
  | none => rfl
  | some parts =>
    obtain ⟨userinfo, host⟩ := parts
    obtain ⟨hauthority, hhost⟩ := cutLast?_eq_some_iff.1 hlast
    cases hfirst : cutAt? ':' userinfo with
    | none => simp only [hfirst]
    | some credentials =>
      obtain ⟨user, password⟩ := credentials
      obtain ⟨rfl, huser⟩ := cutAt?_eq_some_iff.1 hfirst
      refine absurd ?_ (h (String.ofList user) (String.ofList password) (String.ofList host)
        (by simpa using huser) (by simpa using hhost))
      rw [← String.toList_inj, toList_login]
      simpa using hauthority

variable {u : Uri} {user password host : String}

/-- Masking puts the mask in the place of the password. -/
theorem redacted_login (huser : ':' ∉ user.toList) (hhost : '@' ∉ host.toList)
    (hauthority : u.authority = login user password host) :
    u.redacted = text { u with authority := login user KeyValue.mask host } := by
  rw [redacted, hauthority, redactAuthority_login huser hhost, String.ofList_toList]

/-- With another password a URI that was read is read from its text too. -/
theorem isWritten_login (h : u.IsWritten) (hauthority : u.authority = login user password host)
    {other : String} (hslash : '/' ∉ other.toList) (hquestion : '?' ∉ other.toList) :
    IsWritten { u with authority := login user other host } := by
  have hfree : ∀ c, c ≠ ':' → c ≠ '@' → c ∉ u.authority.toList → c ∉ other.toList →
      c ∉ (login user other host).toList := by
    intro c hcolon hat hold hnew
    rw [hauthority, toList_login] at hold
    rw [toList_login]
    simp only [List.mem_append, List.mem_cons, not_or] at hold ⊢
    exact ⟨⟨hold.1.1, hcolon, hnew⟩, hat, hold.2.2⟩
  exact ⟨hfree '?' (by decide) (by decide) h.question_authority hquestion,
    hfree '/' (by decide) (by decide) h.slash_authority hslash, h.question_path, h.isBlank_last⟩

end Uri

namespace KeyValue

/-! ## Pairs -/

/-- The two descriptors have the same keys in the same order, and the same values but for those of
passwords. -/
def SameButPasswords (d d' : KeyValue) : Prop :=
  List.Forall₂ (fun p q => p.key = q.key ∧ (p.key ≠ passwordKey → p.raw = q.raw)) d.pairs d'.pairs

/-- The second descriptor is the first one with the mask for every password. -/
def IsMasked (d d' : KeyValue) : Prop :=
  List.Forall₂ (fun p q => q.key = p.key ∧ q.raw = if p.key = passwordKey then mask else p.raw)
    d.pairs d'.pairs

theorem key_redactPair (p : Pair) : (redactPair p).key = p.key := by
  rw [redactPair]
  split <;> rfl

theorem raw_redactPair (p : Pair) :
    (redactPair p).raw = if p.key = passwordKey then mask else p.raw := by
  rw [redactPair]
  split <;> rfl

theorem redactPair_eq_self {p : Pair} (h : p.key ≠ passwordKey) : redactPair p = p :=
  if_neg h

theorem redacted_eq_text (d : KeyValue) : d.redacted = text ⟨d.pairs.map redactPair⟩ := by
  rw [redacted, text, List.map_map]
  rfl

theorem isMasked_redactPair (d : KeyValue) : d.IsMasked ⟨d.pairs.map redactPair⟩ := by
  rw [IsMasked, List.forall₂_map_right_iff, List.forall₂_same]
  intro p _
  exact ⟨key_redactPair p, raw_redactPair p⟩

/-- What is shown does not depend on the values of passwords. -/
theorem redacted_congr {d d' : KeyValue} (h : d.SameButPasswords d') :
    d.redacted = d'.redacted := by
  -- Masking forgets the value of a password and nothing else.
  have hpair : ∀ p q : Pair, p.key = q.key ∧ (p.key ≠ passwordKey → p.raw = q.raw) →
      redactPair p = redactPair q := by
    rintro ⟨key, raw⟩ ⟨key', raw'⟩ ⟨hkey, hraw⟩
    obtain rfl : key = key' := hkey
    by_cases hpassword : key = passwordKey
    · simp only [redactPair, if_pos hpassword]
    · obtain rfl : raw = raw' := hraw hpassword
      rfl
  have hpairs : List.Forall₂ Eq (d.pairs.map redactPair) (d'.pairs.map redactPair) := by
    rw [List.forall₂_map_left_iff, List.forall₂_map_right_iff]
    exact h.imp hpair
  rw [List.forall₂_eq_eq_eq] at hpairs
  rw [redacted_eq_text, redacted_eq_text, hpairs]

theorem isWritten_redactPair {pairs : List Pair} (h : IsWritten pairs) :
    IsWritten (pairs.map redactPair) := by
  have hmask : mask ≠ "" := by decide +kernel
  have hraw : IsRaw mask.toList := by
    rw [IsRaw]
    decide +kernel
  constructor
  · intro q hq
    obtain ⟨p, hp, rfl⟩ := List.mem_map.1 hq
    obtain ⟨hne, hkey, hvalue⟩ := h.each p hp
    rw [← key_redactPair p] at hne hkey
    refine ⟨hne, hkey, ?_⟩
    rw [raw_redactPair]
    split
    · exact hraw
    · exact hvalue
  · rw [List.pairwise_map]
    refine h.raw_ne.imp fun {p q} hp => ?_
    rw [raw_redactPair]
    split
    · exact hmask
    · exact hp

/-- What is shown is read as the descriptor with its passwords masked. -/
theorem read_redacted {s : String} {d : KeyValue} (h : Descriptor.read s = .ok (.keyValue d)) :
    Descriptor.read d.redacted = .ok (.keyValue ⟨d.pairs.map redactPair⟩) := by
  obtain ⟨hwritten, p, rest, hpairs, hopens⟩ := Descriptor.pairs_of_read h
  have hmasked := isWritten_redactPair hwritten
  rw [redacted_eq_text, hpairs, List.map_cons]
  rw [hpairs, List.map_cons] at hmasked
  exact Descriptor.read_text hmasked ((key_redactPair p).symm ▸ hopens)

theorem redacted_eq_text_of_no_password {d : KeyValue} (h : ∀ p ∈ d.pairs, p.key ≠ passwordKey) :
    d.redacted = d.text := by
  have hpairs : d.pairs.map redactPair = d.pairs := by
    calc
      _ = d.pairs.map id := List.map_congr_left fun p hp => redactPair_eq_self (h p hp)
      _ = d.pairs := List.map_id _
  rw [redacted_eq_text, hpairs]

end KeyValue

namespace Descriptor

/-! ## Passwords where masking looks -/

/-- The descriptor has a password where masking looks for one. -/
def CarriesPassword : Descriptor → Prop
  | uri u => ∃ user password host : String,
      ':' ∉ user.toList ∧ '@' ∉ host.toList ∧ u.authority = Uri.login user password host
  | keyValue d => ∃ p ∈ d.pairs, p.key = KeyValue.passwordKey

theorem redacted_of_not_carriesPassword {d : Descriptor} (h : ¬d.CarriesPassword) :
    d.redacted = d.text := by
  cases d with
  | uri u =>
    have hauthority : Uri.redactAuthority u.authority.toList = u.authority.toList := by
      refine Uri.redactAuthority_eq_self fun user password host huser hhost heq => ?_
      exact h ⟨user, password, host, huser, hhost, heq⟩
    rw [redacted, Uri.redacted, hauthority, String.ofList_toList]
    rfl
  | keyValue d =>
    refine KeyValue.redacted_eq_text_of_no_password fun p hp hkey => ?_
    exact h ⟨p, hp, hkey⟩

/-- **Masking hides passwords.**  A URI that was read with a password in its authority is shown with
the mask in its place, and with any other password its text is read as that URI and shown the same.
Two descriptors of pairs that were read and differ in passwords only are shown the same, and what is
shown is read as the descriptor with the mask for every password.  A descriptor without such a
password is shown as it is. -/
theorem redacted_hides_passwords :
    (∀ (s : String) (u : Uri) (user password host : String), read s = .ok (.uri u) →
      ':' ∉ user.toList → '@' ∉ host.toList → u.authority = Uri.login user password host →
      redacted (.uri u) = text (.uri { u with authority := Uri.login user "****" host }) ∧
        ∀ other : String, '/' ∉ other.toList → '?' ∉ other.toList →
          let u' : Uri := { u with authority := Uri.login user other host }
          read (text (.uri u')) = .ok (.uri u') ∧ redacted (.uri u') = redacted (.uri u)) ∧
    (∀ (s s' : String) (d d' : KeyValue), read s = .ok (.keyValue d) →
      read s' = .ok (.keyValue d') → d.SameButPasswords d' →
      redacted (.keyValue d) = redacted (.keyValue d') ∧
        ∃ shown, read (redacted (.keyValue d)) = .ok (.keyValue shown) ∧ d.IsMasked shown) ∧
    ∀ d : Descriptor, ¬d.CarriesPassword → d.redacted = d.text := by
  refine ⟨?_, ?_, fun d h => redacted_of_not_carriesPassword h⟩
  · intro s u user password host hread huser hhost hauthority
    have hshown : u.redacted = Uri.text { u with authority := Uri.login user "****" host } :=
      Uri.redacted_login huser hhost hauthority
    refine ⟨hshown, fun other hslash hquestion => ⟨?_, ?_⟩⟩
    · have hwritten : u.IsWritten := Uri.isWritten_of_read hread
      exact Uri.read_text (Uri.isWritten_login hwritten hauthority hslash hquestion)
    · exact (Uri.redacted_login huser hhost rfl).trans hshown.symm
  · intro s s' d d' hread _ hsame
    exact ⟨KeyValue.redacted_congr hsame, _, KeyValue.read_redacted hread,
      KeyValue.isMasked_redactPair d⟩

/-- A user, a password and another password with separators in them; and pairs with a quoted
password, one left empty at the end, and a first key that is no password but looks like one. -/
theorem redacted_hides_passwords_separators :
    (∃ u, read "postgres://a@b:p:q@r@h:1/db?x=@" = .ok (.uri u) ∧
      u.authority = Uri.login "a@b" "p:q@r" "h:1" ∧
      u.redacted = "postgres://a@b:****@h:1/db?x=@" ∧
      Uri.redacted { u with authority := Uri.login "a@b" "@:" "h:1" } = u.redacted) ∧
    ∃ d d', read "passwords=1 password = 'a b\\' c=d' host=h password=" = .ok (.keyValue d) ∧
      read "passwords=1 password=x host=h password='y'" = .ok (.keyValue d') ∧
      d.redacted = "passwords=1 password=**** host=h password=****" ∧ d'.redacted = d.redacted := by
  obtain ⟨huri, hpairs, -⟩ := redacted_hides_passwords
  constructor
  · have hread : read "postgres://a@b:p:q@r@h:1/db?x=@" =
        .ok (.uri ⟨.postgres, "a@b:p:q@r@h:1", "db", some "x=@"⟩) := by decide +kernel
    have hauthority : "a@b:p:q@r@h:1" = Uri.login "a@b" "p:q@r" "h:1" := by decide +kernel
    obtain ⟨hshown, hother⟩ := huri _ _ "a@b" "p:q@r" "h:1" hread (by decide +kernel)
      (by decide +kernel) hauthority
    refine ⟨_, hread, hauthority, hshown.trans (by decide +kernel), ?_⟩
    exact (hother "@:" (by decide +kernel) (by decide +kernel)).2
  · have hread : read "passwords=1 password = 'a b\\' c=d' host=h password=" = .ok (.keyValue
        ⟨[⟨"passwords", "1"⟩, ⟨"password", "'a b\\' c=d'"⟩, ⟨"host", "h"⟩, ⟨"password", ""⟩]⟩) := by
      decide +kernel
    have hread' : read "passwords=1 password=x host=h password='y'" = .ok (.keyValue
        ⟨[⟨"passwords", "1"⟩, ⟨"password", "x"⟩, ⟨"host", "h"⟩, ⟨"password", "'y'"⟩]⟩) := by
      decide +kernel
    have hsame := (hpairs _ _ _ _ hread hread' (by
      rw [KeyValue.SameButPasswords]
      simp [KeyValue.passwordKey])).1
    exact ⟨_, _, hread, hread', by decide +kernel, hsame.symm⟩

end Descriptor

namespace Uri

open Text

/-! ## Parameters -/

theorem redacted_query_injective (u : Uri) :
    Function.Injective fun query => redacted { u with query := some query } := by
  intro query query' h
  exact (String.append_right_inj _).1 ((String.append_right_inj _).1 h)

/-- **A password among the parameters is shown.**  Two URIs that differ in the value of one such
parameter, at whatever place among the others, are shown the same only if the values are. -/
theorem redacted_eq_iff_parameter_eq {u : Uri} {query query' : String}
    {before after : List (List Char)} {value value' : List Char} (hquery : u.query = some query)
    (hsplit : query.toList.splitOn '&' = before ++ ("password=".toList ++ value) :: after)
    (hsplit' : query'.toList.splitOn '&' = before ++ ("password=".toList ++ value') :: after) :
    u.redacted = redacted { u with query := some query' } ↔ value = value' := by
  have hu : u = { u with query := some query } := by rw [← hquery]
  rw [hu]
  constructor
  · intro h
    -- The query is shown whole, so what is shown tells it.
    obtain rfl : query = query' := u.redacted_query_injective h
    rw [hsplit] at hsplit'
    have hparameter := (List.cons.inj (List.append_cancel_left hsplit')).1
    exact List.append_cancel_left hparameter
  · rintro rfl
    have hsame : query = query' := by
      rw [← String.toList_inj]
      exact splitOn_injective '&' (hsplit.trans hsplit'.symm)
    rw [hsame]

/-- A password among other parameters, and an empty one in its place. -/
theorem redacted_eq_iff_parameter_eq_between :
    let u : Uri := ⟨.postgres, "u@h", "db", some "a=1&password=p&b=2"⟩
    "a=1&password=p&b=2".toList.splitOn '&' =
        ["a=1".toList] ++ ("password=".toList ++ "p".toList) :: ["b=2".toList] ∧
      "a=1&password=&b=2".toList.splitOn '&' =
        ["a=1".toList] ++ ("password=".toList ++ "".toList) :: ["b=2".toList] ∧
      (u.redacted = redacted { u with query := some "a=1&password=&b=2" } ↔
        "p".toList = "".toList) := by
  intro u
  have hsplit : "a=1&password=p&b=2".toList.splitOn '&' =
      ["a=1".toList] ++ ("password=".toList ++ "p".toList) :: ["b=2".toList] := by decide +kernel
  have hsplit' : "a=1&password=&b=2".toList.splitOn '&' =
      ["a=1".toList] ++ ("password=".toList ++ "".toList) :: ["b=2".toList] := by decide +kernel
  exact ⟨hsplit, hsplit', redacted_eq_iff_parameter_eq rfl hsplit hsplit'⟩

/-- The only parameter is a password, and it is shown as it is: with another one the text is
another. -/
theorem redacted_shows_parameter :
    Descriptor.read "postgres://h/db?password=hunter2" =
        .ok (.uri ⟨.postgres, "h", "db", some "password=hunter2"⟩) ∧
      redacted ⟨.postgres, "h", "db", some "password=hunter2"⟩ =
        "postgres://h/db?password=hunter2" ∧
      redacted ⟨.postgres, "h", "db", some "password=hunter2"⟩ ≠
        redacted ⟨.postgres, "h", "db", some "password=other"⟩ := by
  decide +kernel

end Uri

end PgVitals
