import Mathlib.Data.List.Basic

/-! Absolute http and https URLs by their components. What separates two
components never occurs in the one before it, so the components can be read back
from the text; and a part of the text without such a character lies within one
component. -/
namespace Web

section
variable {α : Type} {separator : α} {part : List α}

theorem prefix_separated (apart : separator ∉ part) (left right : List α) :
    part <+: left ++ separator :: right ↔ part <+: left := by
  induction left generalizing part with
  | nil =>
    rw [List.nil_append, List.prefix_cons_iff, List.prefix_nil]
    apply or_iff_left
    rintro ⟨rest, rfl, -⟩
    exact apart List.mem_cons_self
  | cons first left ih =>
    rw [List.cons_append, List.prefix_cons_iff, List.prefix_cons_iff]
    refine or_congr_right (exists_congr fun rest => and_congr_right fun same => ih ?_)
    rw [same] at apart
    exact fun member => apart (List.mem_cons_of_mem _ member)

/-- What does not hold the separator lies on one side of it. -/
theorem infix_separated (apart : separator ∉ part) (left right : List α) :
    part <:+: left ++ separator :: right ↔ part <:+: left ∨ part <:+: right := by
  induction left with
  | nil =>
    have start := prefix_separated apart [] right
    rw [List.nil_append] at start ⊢
    rw [List.infix_cons_iff, start, List.prefix_nil, List.infix_nil]
  | cons first left ih =>
    have start := prefix_separated apart (first :: left) right
    rw [List.cons_append] at start ⊢
    rw [List.infix_cons_iff, List.infix_cons_iff, start, ih, or_assoc]

/-- Reading stops where the next character is not one of the kind. -/
theorem takeWhile_stop {p : α → Bool} {left right : List α} (all : ∀ c ∈ left, p c = true)
    (stops : ∀ c, right.head? = some c → p c = false) : (left ++ right).takeWhile p = left := by
  rw [List.takeWhile_append_of_pos all]
  cases right with
  | nil => simp
  | cons first rest => simp [stops first rfl]

theorem dropWhile_stop {p : α → Bool} {left right : List α} (all : ∀ c ∈ left, p c = true)
    (stops : p separator = false) :
    (left ++ separator :: right).dropWhile p = separator :: right := by
  rw [List.dropWhile_append_of_pos all]
  simp [stops]

/-- Two texts agree exactly when they agree on both sides of their first separators. -/
theorem separated_inj {left left' right right' : List α} (apart : separator ∉ left)
    (apart' : separator ∉ left') :
    left ++ separator :: right = left' ++ separator :: right' ↔ left = left' ∧ right = right' := by
  constructor
  · intro same
    induction left generalizing left' with
    | nil =>
      cases left' with
      | nil => exact ⟨rfl, (List.cons.inj same).2⟩
      | cons first left' =>
        rw [(List.cons.inj same).1] at apart'
        exact absurd List.mem_cons_self apart'
    | cons first left ih =>
      cases left' with
      | nil =>
        rw [(List.cons.inj same).1] at apart
        exact absurd List.mem_cons_self apart
      | cons first' left' =>
        obtain ⟨rfl, later⟩ := List.cons.inj same
        obtain ⟨rfl, rfl⟩ := ih (fun member => apart (List.mem_cons_of_mem _ member))
          (fun member => apart' (List.mem_cons_of_mem _ member)) later
        exact ⟨rfl, rfl⟩
  · rintro ⟨rfl, rfl⟩
    rfl

end

/-- The text holds none of the characters. -/
def Free (characters : List Char) (text : String) : Prop := ∀ c ∈ text.toList, c ∉ characters

instance (characters : List Char) (text : String) : Decidable (Free characters text) :=
  List.decidableBAll _ _

/-- A name, in which a colon would start the port, or an address in brackets. -/
def IsHost (text : String) : Prop :=
  text ≠ "" ∧ Free ['@', '/', '?', '#'] text ∧
    (Free [':', '['] text ∨ ∃ address, text = "[" ++ address ++ "]" ∧ Free [']'] address)

/-- `scheme://[userinfo@]host[:port][/path][?query][#fragment]`, with the scheme
in any case. -/
structure HttpUrl where
  scheme : String
  userinfo : Option String := none
  host : String
  port : Option String := none
  path : Option String := none
  query : Option String := none
  fragment : Option String := none
  scheme_http : scheme.toList.map Char.toLower ∈ ["http".toList, "https".toList]
  userinfo_free : ∀ text ∈ userinfo, Free ['@', '/', '?', '#'] text
  host_valid : IsHost host
  port_digits : ∀ text ∈ port, ∀ c ∈ text.toList, c.isDigit = true
  path_free : ∀ text ∈ path, Free ['?', '#'] text
  query_free : ∀ text ∈ query, Free ['#'] text

/-- An optional component with the character that ends it. -/
def ended (separator : Char) : Option String → List Char
  | some text => text.toList ++ [separator]
  | none => []

/-- An optional component with the character that starts it. -/
def started (separator : Char) : Option String → List Char
  | some text => separator :: text.toList
  | none => []

namespace HttpUrl

/-- The part between the scheme and the path. -/
def authority (url : HttpUrl) : List Char :=
  ended '@' url.userinfo ++ (url.host.toList ++ started ':' url.port)

/-- The part from the path on. -/
def rest (url : HttpUrl) : List Char :=
  started '/' url.path ++ (started '?' url.query ++ started '#' url.fragment)

def text (url : HttpUrl) : String :=
  String.ofList (url.scheme.toList ++ "://".toList ++ url.authority ++ url.rest)

end HttpUrl

/-- What stands between the scheme and the path of a URL. -/
def authorityOf (text : List Char) : List Char :=
  ((text.dropWhile (· ≠ ':')).drop 3).takeWhile (· ∉ ['/', '?', '#'])

/-- An authority without its userinfo. -/
def hostAndPort (authority : List Char) : List Char :=
  if '@' ∈ authority then (authority.dropWhile (· ≠ '@')).drop 1 else authority

/-- A host without its port. The colons of an address stand in brackets. -/
def withoutPort : List Char → List Char
  | '[' :: address => '[' :: (address.takeWhile (· ≠ ']') ++ [']'])
  | name => name.takeWhile (· ≠ ':')

/-- The host that a URL names. -/
def hostOf (text : String) : String :=
  String.ofList (withoutPort (hostAndPort (authorityOf text.toList)))

section
variable {separator : Char} {part : List Char}

theorem infix_started (apart : separator ∉ part) (left : List Char) (component : Option String) :
    part <:+: left ++ started separator component ↔
      part <:+: left ∨ ∃ text ∈ component, part <:+: text.toList := by
  cases component with
  | none => simp [started]
  | some text => simpa [started] using infix_separated apart left text.toList

theorem infix_ended (apart : separator ∉ part) (component : Option String) (right : List Char) :
    part <:+: ended separator component ++ right ↔
      (∃ text ∈ component, part <:+: text.toList) ∨ part <:+: right := by
  cases component with
  | none => simp [ended]
  | some text => simpa [ended] using infix_separated apart text.toList right

theorem started_head {component : Option String}
    (starts : (started separator component).head? = some c) : c = separator := by
  cases component with
  | none => cases starts
  | some text => exact (Option.some.inj starts).symm

theorem started_append_head {component : Option String} {right : List Char}
    (starts : (started separator component ++ right).head? = some c) :
    c = separator ∨ right.head? = some c := by
  cases component with
  | none => exact .inr starts
  | some text => exact .inl (Option.some.inj starts).symm

end

namespace HttpUrl
variable (url : HttpUrl)

theorem text_toList : url.text.toList =
    url.scheme.toList ++ ':' :: '/' :: '/' :: (url.authority ++ url.rest) := by
  simp [text]

theorem scheme_letters (member : c ∈ url.scheme.toList) : c.toLower ∈ "https".toList := by
  have letter := List.mem_map_of_mem (f := Char.toLower) member
  have short : "http".toList ⊆ "https".toList := by decide
  rcases List.mem_cons.mp url.scheme_http with http | https
  · rw [http] at letter
    exact short letter
  · rw [List.mem_singleton.mp https] at letter
    exact letter

theorem host_free : Free ['@', '/', '?', '#'] url.host := url.host_valid.2.1

/-- The characters of the port, with the colon before it. -/
theorem port_characters (member : c ∈ started ':' url.port) : c = ':' ∨ c.isDigit = true := by
  cases given : url.port with
  | none => simp [given, started] at member
  | some text =>
    rw [given, started, List.mem_cons] at member
    exact member.imp_right (url.port_digits text given c)

theorem hostPort_free (member : c ∈ url.host.toList ++ started ':' url.port) :
    c ∉ ['@', '/', '?', '#'] := by
  rcases List.mem_append.mp member with inHost | inPort
  · exact url.host_free c inHost
  · rcases url.port_characters inPort with rfl | digit
    · decide
    · intro separates
      simp only [List.mem_cons, List.not_mem_nil, or_false] at separates
      rcases separates with rfl | rfl | rfl | rfl <;> cases digit

theorem authority_free (member : c ∈ url.authority) : c ∉ ['/', '?', '#'] := by
  have fewer : ['/', '?', '#'] ⊆ ['@', '/', '?', '#'] := List.subset_cons_self _ _
  rcases List.mem_append.mp member with inUserinfo | later
  · cases given : url.userinfo with
    | none => simp [given, ended] at inUserinfo
    | some text =>
      rw [given, ended, List.mem_append, List.mem_singleton] at inUserinfo
      rcases inUserinfo with inText | rfl
      · exact fun separates => url.userinfo_free text given c inText (fewer separates)
      · decide
  · exact fun separates => url.hostPort_free later (fewer separates)

theorem rest_head (starts : url.rest.head? = some c) : c ∈ ['/', '?', '#'] := by
  rcases started_append_head starts with rfl | starts
  · decide
  · rcases started_append_head starts with rfl | starts
    · decide
    · simp [started_head starts]

theorem authorityOf_text : authorityOf url.text.toList = url.authority := by
  have scheme : ∀ c ∈ url.scheme.toList, decide (c ≠ ':') = true := by
    intro c member
    have letter := url.scheme_letters member
    simp only [decide_eq_true_eq]
    rintro rfl
    exact absurd letter (by decide)
  rw [authorityOf, text_toList, dropWhile_stop scheme (by decide)]
  change (url.authority ++ url.rest).takeWhile _ = _
  apply takeWhile_stop
  · exact fun c member => decide_eq_true (url.authority_free member)
  · exact fun c starts => decide_eq_false (not_not.mpr (url.rest_head starts))

theorem hostAndPort_authority :
    hostAndPort url.authority = url.host.toList ++ started ':' url.port := by
  have later : '@' ∉ url.host.toList ++ started ':' url.port :=
    fun member => url.hostPort_free member (by simp)
  unfold hostAndPort authority
  cases given : url.userinfo with
  | none =>
    rw [ended, List.nil_append]
    exact if_neg later
  | some text =>
    have inText : ∀ c ∈ text.toList, decide (c ≠ '@') = true := by
      intro c member
      simp only [decide_eq_true_eq]
      rintro rfl
      exact url.userinfo_free text given '@' member (by simp)
    simp only [ended, List.append_assoc, List.singleton_append]
    rw [if_pos (by simp), dropWhile_stop inText (by decide)]
    rfl

theorem withoutPort_name {name : List Char} (plain : name.head? ≠ some '[') :
    withoutPort name = name.takeWhile (· ≠ ':') := by
  unfold withoutPort
  split
  · exact absurd rfl plain
  · rfl

theorem withoutPort_hostPort :
    withoutPort (url.host.toList ++ started ':' url.port) = url.host.toList := by
  obtain ⟨nonempty, -, name | ⟨address, same, free⟩⟩ := url.host_valid
  · rw [withoutPort_name]
    · apply takeWhile_stop
      · exact fun c member => decide_eq_true fun same => name c member (by simp [same])
      · intro c starts
        simp [started_head starts]
    · cases given : url.host.toList with
      | nil => exact absurd (String.toList_injective given) nonempty
      | cons first others =>
        have other : first ≠ '[' := fun same => name first (by simp [given]) (by simp [same])
        simpa using other
  · have inAddress : ∀ c ∈ address.toList, decide (c ≠ ']') = true := by
      intro c member
      simpa using free c member
    have shape : url.host.toList ++ started ':' url.port =
        '[' :: (address.toList ++ ']' :: started ':' url.port) := by
      simp [same]
    rw [shape, withoutPort, takeWhile_stop inAddress (by simp)]
    simp [same]

/-- The host can be read back from the text of the URL. -/
theorem hostOf_text : hostOf url.text = url.host := by
  rw [hostOf, authorityOf_text, hostAndPort_authority, withoutPort_hostPort, String.ofList_toList]

example : hostOf "http://user:pass@[::1]:80/path?query#fragment" = "[::1]" := by decide

/-- The components, without what separates them. -/
def components : List String :=
  url.scheme :: url.userinfo.toList ++ url.host :: url.port.toList ++ url.path.toList ++
    url.query.toList ++ url.fragment.toList

/-- A part of a URL without any separator lies within one component. -/
theorem infix_text {part : List Char} (something : part ≠ [])
    (apart : ∀ separator ∈ [':', '/', '@', '?', '#'], separator ∉ part) :
    part <:+: url.text.toList ↔ ∃ component ∈ url.components, part <:+: component.toList := by
  have colon := apart ':' (by simp)
  have slash := apart '/' (by simp)
  have shape : url.authority ++ url.rest = ended '@' url.userinfo ++
      (url.host.toList ++ started ':' url.port ++ started '/' url.path ++ started '?' url.query ++
        started '#' url.fragment) := by
    simp [authority, rest]
  have nothing : ∀ right, part <:+: '/' :: right ↔ part <:+: right := by
    intro right
    simpa [something] using infix_separated slash [] right
  rw [text_toList, infix_separated colon, nothing, nothing, shape, infix_ended (apart '@' (by simp)),
    infix_started (apart '#' (by simp)), infix_started (apart '?' (by simp)),
    infix_started slash, infix_started colon]
  simp only [components, List.mem_append, List.mem_cons, Option.mem_toList, or_and_right, exists_or,
    exists_eq_left, or_assoc, Option.mem_def]

end HttpUrl
end Web
