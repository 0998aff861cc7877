import BigMovies.Dart.Dynamic
import BigMovies.Web.Url

/-! The player page of `embed_page.dart` and its filter of advertising. The
filter searches the whole URL for the entries of a list of domains. No entry can
reach over a separator, and none fits into a scheme or a port; but it may well
stand in the userinfo, the path, the query or the fragment. -/
namespace BigMovies
open Dart Web

structure NavigationRequest where
  url : String
deriving DecidableEq, Repr

inductive NavigationDecision where
  | prevent
  | navigate
deriving DecidableEq, Repr

/-- The `WebView` of webview_flutter, which is not part of the app: which pages its
main frame may show, given its initial URL and what its delegate has decided so far.
All that is used of it is what is documented of the delegate: a navigation of that
frame is put to it, and not followed unless it answers `navigate`. -/
structure WebView where
  Shows : String → List (NavigationRequest × NavigationDecision) → String → Prop
  asks : ∀ initialUrl decisions url, Shows initialUrl decisions url →
    url = initialUrl ∨ ∃ request, (request, .navigate) ∈ decisions ∧ request.url = url

/-- The web view that has followed the last navigation it was let to. -/
def WebView.latest : WebView where
  Shows initialUrl decisions url :=
    ((decisions.reverse.find? (·.2 == .navigate)).map (·.1.url)).getD initialUrl = url
  asks := by
    rintro initialUrl decisions url rfl
    cases found : decisions.reverse.find? (·.2 == .navigate) with
    | none => exact .inl rfl
    | some last =>
      have allowed : last.2 = .navigate := by simpa using List.find?_some found
      have member : last ∈ decisions := List.mem_reverse.mp (List.mem_of_find?_eq_some found)
      exact .inr ⟨last.1, allowed ▸ member, rfl⟩

/-- The player as a details page pushes it. -/
structure EmbedPage where
  embedUrl : String
  title : String
deriving DecidableEq, Repr

namespace EmbedPage

def adDomains : List String :=
  ["ads", "popads", "doubleclick", "adservice", "trackers", "googleadservices", "ad-delivery",
    "openx"]

def isAdUrl (url : String) : Bool := adDomains.any fun adDomain => contains url adDomain

def navigationDelegate (request : NavigationRequest) : NavigationDecision :=
  if isAdUrl request.url then .prevent else .navigate

/-- The text contains one of the entries. -/
def NamesAd (text : String) : Prop := ∃ entry ∈ adDomains, entry.toList <:+: text.toList

theorem isAdUrl_iff {text : String} : isAdUrl text = true ↔ NamesAd text := by
  simp only [isAdUrl, NamesAd, List.any_eq_true, contains_iff]

instance (text : String) : Decidable (NamesAd text) := decidable_of_iff _ isAdUrl_iff

theorem prevent_iff {url : String} : navigationDelegate ⟨url⟩ = .prevent ↔ NamesAd url := by
  rw [navigationDelegate, ← isAdUrl_iff]
  cases isAdUrl url <;> simp

theorem navigate_iff {url : String} : navigationDelegate ⟨url⟩ = .navigate ↔ ¬ NamesAd url := by
  rw [← prevent_iff]
  cases navigationDelegate ⟨url⟩ <;> decide

/-- The components besides the host in which an entry may stand. -/
def beyondHost (url : HttpUrl) : List String :=
  url.userinfo.toList ++ url.path.toList ++ url.query.toList ++ url.fragment.toList

def NamesAdBeyondHost (url : HttpUrl) : Prop := ∃ text ∈ beyondHost url, NamesAd text

instance (url : HttpUrl) : Decidable (NamesAdBeyondHost url) :=
  inferInstanceAs (Decidable (∃ text ∈ beyondHost url, NamesAd text))

/-- An entry holds a character that is neither a digit nor one of a scheme. -/
theorem telling_character : ∀ entry ∈ adDomains, ∃ c ∈ entry.toList,
    c.isDigit = false ∧ c.toLower ∉ "https".toList := by
  have checked : (adDomains.all fun entry => entry.toList.any fun c =>
      !c.isDigit && !"https".toList.contains c.toLower) = true := by decide
  simpa only [List.all_eq_true, List.any_eq_true, Bool.and_eq_true, Bool.not_eq_true',
    List.contains_eq_mem, decide_eq_false_iff_not] using checked

theorem not_namesAd_scheme (url : HttpUrl) : ¬ NamesAd url.scheme := by
  rintro ⟨entry, listed, found⟩
  obtain ⟨c, member, -, foreign⟩ := telling_character entry listed
  exact foreign (url.scheme_letters (found.subset member))

theorem not_namesAd_port (url : HttpUrl) (given : port ∈ url.port) : ¬ NamesAd port := by
  rintro ⟨entry, listed, found⟩
  obtain ⟨c, member, nondigit, -⟩ := telling_character entry listed
  have digit := url.port_digits port given c (found.subset member)
  rw [nondigit] at digit
  cases digit

/-- An entry in a URL stands within one of its components. -/
theorem namesAd_components (url : HttpUrl) :
    NamesAd url.text ↔ ∃ component ∈ url.components, NamesAd component := by
  have something : ∀ entry ∈ adDomains, entry.toList ≠ [] := by decide
  have apart : ∀ entry ∈ adDomains, ∀ separator ∈ [':', '/', '@', '?', '#'],
      separator ∉ entry.toList := by
    have checked : (adDomains.all fun entry => [':', '/', '@', '?', '#'].all fun separator =>
        !entry.toList.contains separator) = true := by decide
    simpa only [List.all_eq_true, Bool.not_eq_true', List.contains_eq_mem,
      decide_eq_false_iff_not] using checked
  constructor
  · rintro ⟨entry, listed, found⟩
    obtain ⟨component, member, within⟩ :=
      (url.infix_text (something entry listed) (apart entry listed)).mp found
    exact ⟨component, member, entry, listed, within⟩
  · rintro ⟨component, member, entry, listed, within⟩
    have found := (url.infix_text (something entry listed) (apart entry listed)).mpr
      ⟨component, member, within⟩
    exact ⟨entry, listed, found⟩

theorem mem_components (url : HttpUrl) (component : String) :
    component ∈ url.components ↔ component = url.scheme ∨ component = url.host ∨
      component ∈ url.port ∨ component ∈ beyondHost url := by
  simp only [HttpUrl.components, beyondHost, List.mem_append, List.mem_cons, Option.mem_toList,
    Option.mem_def]
  tauto

theorem namesAd_text (url : HttpUrl) :
    NamesAd url.text ↔ NamesAd url.host ∨ NamesAdBeyondHost url := by
  rw [namesAd_components]
  constructor
  · rintro ⟨component, member, named⟩
    rcases (mem_components url component).mp member with rfl | rfl | port | beyond
    · exact absurd named (not_namesAd_scheme url)
    · exact .inl named
    · exact absurd named (not_namesAd_port url port)
    · exact .inr ⟨component, beyond, named⟩
  · rintro (named | ⟨component, beyond, named⟩)
    · exact ⟨url.host, (mem_components url _).mpr (.inr (.inl rfl)), named⟩
    · exact ⟨component, (mem_components url _).mpr (.inr (.inr (.inr beyond))), named⟩

theorem decisions_agree_iff {first second : String} :
    navigationDelegate ⟨first⟩ = navigationDelegate ⟨second⟩ ↔ (NamesAd first ↔ NamesAd second) := by
  rw [← prevent_iff, ← prevent_iff]
  cases navigationDelegate ⟨first⟩ <;> cases navigationDelegate ⟨second⟩ <;> decide

/-- The filter judges a URL by its host exactly when the host contains an entry
or no other component does. It treats another URL of the same host alike exactly
when the host contains an entry, or the rest of both does, or that of neither. -/
theorem judges_host_iff (url : HttpUrl) :
    ((navigationDelegate ⟨url.text⟩ = .prevent ↔ NamesAd (hostOf url.text)) ↔
      (NamesAd url.host ∨ ¬ NamesAdBeyondHost url)) ∧
    ∀ other : HttpUrl, hostOf url.text = hostOf other.text →
      (navigationDelegate ⟨url.text⟩ = navigationDelegate ⟨other.text⟩ ↔
        (NamesAd url.host ∨ (NamesAdBeyondHost url ↔ NamesAdBeyondHost other))) := by
  constructor
  · rw [prevent_iff, url.hostOf_text, namesAd_text]
    by_cases named : NamesAd url.host
    · simp only [named, true_or]
    · simp only [named, false_or, iff_false]
  · intro other same
    rw [url.hostOf_text, other.hostOf_text] at same
    rw [decisions_agree_iff, namesAd_text, namesAd_text, ← same]
    by_cases named : NamesAd url.host
    · simp only [named, true_or]
    · simp only [named, false_or]

/-- A page of the site that the player comes from. -/
def playerPage (path : String) (free : Free ['?', '#'] path) : HttpUrl where
  scheme := "https"
  host := "vidsrc.xyz"
  path := some path
  scheme_http := by decide
  userinfo_free := by simp
  host_valid := ⟨by decide, by decide, .inl (by decide)⟩
  port_digits := by simp
  path_free := by simpa using free
  query_free := by simp

def embedMovie : HttpUrl := playerPage "embed/movie" (by decide)

def downloads : HttpUrl := playerPage "downloads" (by decide)

theorem judges_host_embedMovie :
    (navigationDelegate ⟨embedMovie.text⟩ = .prevent ↔ NamesAd (hostOf embedMovie.text)) ∧
      ¬ navigationDelegate ⟨embedMovie.text⟩ = navigationDelegate ⟨downloads.text⟩ := by
  have same : hostOf embedMovie.text = hostOf downloads.text := by
    rw [embedMovie.hostOf_text, downloads.hostOf_text]
    rfl
  constructor
  · exact (judges_host_iff embedMovie).1.mpr (.inr (by decide))
  · rw [(judges_host_iff embedMovie).2 downloads same]
    decide

/-- The path is an ordinary word with `ads` in it; the host is that of the player. -/
theorem downloads_prevented :
    downloads.text = "https://vidsrc.xyz/downloads" ∧ hostOf downloads.text = "vidsrc.xyz" ∧
      navigationDelegate ⟨downloads.text⟩ = .prevent ∧ ¬ NamesAd (hostOf downloads.text) ∧
      hostOf embedMovie.text = hostOf downloads.text ∧
      navigationDelegate ⟨embedMovie.text⟩ = .navigate := by
  have host : hostOf downloads.text = "vidsrc.xyz" := downloads.hostOf_text
  have player : hostOf embedMovie.text = "vidsrc.xyz" := embedMovie.hostOf_text
  rw [host, player]
  refine ⟨rfl, rfl, ?_, by decide, rfl, ?_⟩
  · rw [prevent_iff, namesAd_text]
    decide
  · decide

end EmbedPage
end BigMovies
