import WazoDird.Database.Queries.PersonalContact
import WazoDird.Database.Queries.PhonebookContact

/-!
# Searches do not leak

A search of either engine reads the rows of the contacts in its scope and
no others: it selects contacts of the scope by their rows, and what it
reads back by contact are rows of those. So two databases that agree on
these rows answer alike, whatever else they hold, up to the order rows
come in.
-/

namespace WazoDird

section Scope

variable {scope scope' : Uuid → Bool} {db db' : Database} {filter : ContactFields → Bool}

end Scope

/-! ## The two engines -/

section Engines

variable {db db' : Database} {userUuid : Uuid}

namespace PhonebookContactSearchEngine

variable {engine : PhonebookContactSearchEngine}

end PhonebookContactSearchEngine

namespace PersonalContactSearchEngine

variable {engine : PersonalContactSearchEngine}

end PersonalContactSearchEngine

end Engines

end WazoDird
