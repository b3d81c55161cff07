import BlobStore.Memory
import BlobStore.Proofs.Text.Cut
import BlobStore.Proofs.Text.Numeral

/-!
# What a signed URL tells

A signed URL tells as a field of its query how many whole seconds it is valid for. The name of the
object stands before that and cannot be taken for the field.
-/

namespace BlobStore

/-- The fields of the query of a URL as they are written. The query follows the last question mark. -/
def queryFields (url : String) : List (List Char) :=
  (url.toList.reverse.takeWhile (· ≠ '?')).reverse.splitOn '&'

/-- For how many seconds a URL tells that it is valid, each time that it does. -/
def lifetimes (url : String) : List (Option Nat) :=
  ((queryFields url).filterMap ("X-Amz-Expires=".toList.isPrefixOf? ·)).map (Text.readNat? 10)

private theorem queryFields_single (stem : String) {field : String} (hmark : '?' ∉ field.toList)
    (hseparator : '&' ∉ field.toList) : queryFields (stem ++ "?" ++ field) = [field.toList] := by
  have hquestion : "?".toList = ['?'] := rfl
  have hquery : ∀ c ∈ field.toList.reverse, decide (c ≠ '?') = true := by
    intro c hc
    refine decide_eq_true ?_
    rintro rfl
    exact hmark (List.mem_reverse.mp hc)
  rw [queryFields, String.toList_append, String.toList_append, hquestion, List.append_assoc,
    List.singleton_append, List.reverse_append, List.reverse_cons, List.append_assoc,
    List.singleton_append, List.takeWhile_append_of_pos hquery,
    List.takeWhile_cons_of_neg (by simp), List.append_nil, List.reverse_reverse]
  exact List.splitOn_eq_singleton hseparator

theorem Memory.lifetimes_presign (query : GetQuery) (expiry : Duration) :
    lifetimes (Memory.presign query expiry) = [some expiry.wholeSeconds] := by
  let stem := "https://" ++ query.address.bucket ++ ".s3.memory/" ++ query.address.key
  let seconds := toString expiry.wholeSeconds
  have hmark : stem ++ "?" ++ "X-Amz-Expires=" = stem ++ "?X-Amz-Expires=" := by
    rw [String.append_assoc]
    rfl
  have hpresign : Memory.presign query expiry = stem ++ "?" ++ ("X-Amz-Expires=" ++ seconds) := by
    rw [← String.append_assoc, hmark]
    rfl
  have hfield : ("X-Amz-Expires=" ++ seconds).toList =
      "X-Amz-Expires=".toList ++ Nat.toDigits 10 expiry.wholeSeconds := by
    rw [String.toList_append, Text.toList_toString]
  have habsent : ∀ {c : Char}, c ∉ "X-Amz-Expires=".toList → c.isDigit = false →
      c ∉ ("X-Amz-Expires=" ++ seconds).toList := by
    intro c hname hdigit hmem
    rcases List.mem_append.mp (String.toList_append ▸ hmem) with h | h
    · exact hname h
    · exact Text.not_mem_toString hdigit _ h
  rw [lifetimes, hpresign, queryFields_single stem (habsent (by decide) rfl) (habsent (by decide) rfl), hfield,
    List.filterMap_cons_some (Text.isPrefixOf?_append _ _), List.filterMap_nil, List.map_singleton,
    Text.readNat?_toDigits (by decide) (by decide)]

end BlobStore
