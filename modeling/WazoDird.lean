import WazoDird.Common.Dict
import WazoDird.Common.Run
import WazoDird.Common.Value
import WazoDird.Database.Model
import WazoDird.Common.Like
import WazoDird.Database.Queries.Source
import WazoDird.Database.Queries.Favorite
import WazoDird.Database.Queries.Phonebook
import WazoDird.Favorites.Model
import WazoDird.Favorites.Isolation
import WazoDird.SourceManager.Concurrent
import WazoDird.SourceManager.Serving
import WazoDird.SourceManager.Edits
import WazoDird.Services.Model
import WazoDird.Services.Coherence
import WazoDird.Reverse.Model
import WazoDird.Reverse.Positional
import WazoDird.Reverse.Phonebook
import WazoDird.Database.Queries.Base
import WazoDird.Database.Queries.PhonebookContact
import WazoDird.Common.Scan
import WazoDird.Backends.SourceResult
import WazoDird.Backends.Conference
import WazoDird.Backends.Google
import WazoDird.Backends.Office365
import WazoDird.Backends.Agreement
import WazoDird.Backends.WazoUser
import WazoDird.Backends.WazoUserPaths
import WazoDird.Backends.WazoUserAgreement
import WazoDird.Common.Rfc4515.Filter
import WazoDird.Common.Rfc4515.Ask
import WazoDird.Common.PyUuid
import WazoDird.Ldap.Config
import WazoDird.Ldap.Plugin
import WazoDird.Ldap.Placeholder
import WazoDird.Ldap.Filters
import WazoDird.Ldap.MatchAll
import WazoDird.Ldap.Terms
import WazoDird.Ldap.ListById
import WazoDird.Ldap.Client
import WazoDird.Ldap.FirstMatch
import WazoDird.Ldap.Batch
import WazoDird.Common.Listing
import WazoDird.Common.Sorted
import WazoDird.Common.Text
import WazoDird.Database.Queries.Noninterference
import WazoDird.Services.Names
import WazoDird.Favorites.Ids
import WazoDird.Favorites.Shown
import WazoDird.PhonebookContacts.Rows
import WazoDird.PhonebookContacts.ReadBack
import WazoDird.PhonebookContacts.Import
import WazoDird.PersonalContacts.Store
import WazoDird.PersonalContacts.Listing
import WazoDird.Backends.Csv
import WazoDird.Backends.GoogleContacts
import WazoDird.Backends.Listing.TextId
import WazoDird.Backends.Listing.Conference
import WazoDird.Backends.Listing.Google
import WazoDird.Backends.Listing.Office365
import WazoDird.Backends.Listing.WazoUser
import WazoDird.Backends.ListsBack
import WazoDird.Common.Csv
import WazoDird.PersonalContacts.Export
import WazoDird.PersonalContacts.Import
import WazoDird.PersonalContacts.Batch
import WazoDird.PersonalContacts.Returned
import WazoDird.PersonalContacts.Accounts
import WazoDird.Database.Directory
import WazoDird.Database.Queries.Display
import WazoDird.Database.Queries.Profile
import WazoDird.Database.Queries.Scoping
import WazoDird.ConfdClient.Registry
import WazoDird.ConfdClient.Matches
import WazoDird.SourceManager.Unload
import WazoDird.Profiles.Rows
import WazoDird.Profiles.Display
import WazoDird.Profiles.ReadBack
import WazoDird.ConfigService.Configured
import WazoDird.Common.Session.Body
import WazoDird.Common.Session.Gives
import WazoDird.Common.Session.Operation
import WazoDird.Database.Queries.Tenant
import WazoDird.Database.Driven.Base
import WazoDird.Database.Driven.Tenant
import WazoDird.Database.Driven.Source
import WazoDird.Database.Driven.Profile
import WazoDird.Database.Driven.Phonebook
import WazoDird.Database.Driven.PersonalContact
import WazoDird.Database.Driven.Outage
import WazoDird.Ldap.Connection
import WazoDird.Backends.FormatColumns
import WazoDird.SourceManager.Failures
import WazoDird.Backends.GoogleNumbers
import WazoDird.Profiles.Atomic
import WazoDird.Reverse.Personal
import WazoDird.Database.Queries.ContactSearch
import WazoDird.PersonalContacts.Edit
import WazoDird.Backends.Fetch.Google
import WazoDird.Backends.Fetch.Office365
import WazoDird.Services.Paginators
import WazoDird.Services.SortContacts
import WazoDird.Common.Pages
import WazoDird.Common.StableSort
import WazoDird.Views.Cells
import WazoDird.Backends.CsvCache
import WazoDird.Database.Migrations.ServiceTimeout
import WazoDird.Database.Queries.PhonebookSource
import WazoDird.Views.PhonebookView
import WazoDird.Database.Queries.ExtenMap
import WazoDird.Common.DictHeap
import WazoDird.Database.Queries.ContactHash
import WazoDird.Common.Executor.Pool
import WazoDird.Common.Executor.Wait
import WazoDird.Common.Executor.AsCompleted
import WazoDird.Services.BaseService
import WazoDird.Lookup.Model
import WazoDird.Lookup.Answers
import WazoDird.Favorites.Listed
import WazoDird.Reverse.Executor
import WazoDird.Reverse.Answers
import WazoDird.Reverse.Batch
import WazoDird.Users.Deleted
import WazoDird.Common.CsvHeader
import WazoDird.PhonebookContacts.ImportEndpoints
import WazoDird.PhonebookContacts.ImportDocument
import WazoDird.Common.Book
import WazoDird.PersonalContacts.Cards
import WazoDird.PersonalContacts.CardWrites
import WazoDird.PersonalContacts.Refines
import WazoDird.Database.Queries.ContactCards
import WazoDird.PhonebookContacts.Cards
import WazoDird.PhonebookContacts.CardWrites
import WazoDird.PhonebookContacts.CardReads
import WazoDird.PhonebookContacts.Refines
import WazoDird.PhonebookContacts.Isolation
