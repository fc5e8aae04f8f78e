import SpendCraft.Lib.Machine
import SpendCraft.Lib.CachedFlow
import SpendCraft.Lib.CheckThenAct
import SpendCraft.Lib.KotlinText
import SpendCraft.Lib.KotlinNumber
import SpendCraft.Lib.Calendar
import SpendCraft.Lib.JavaTime
import SpendCraft.Lib.Table
import SpendCraft.PremiumState
import SpendCraft.BillingManager
import SpendCraft.BillingRepository
import SpendCraft.Model
import SpendCraft.Database
import SpendCraft.BudgetBreaches
import SpendCraft.BudgetAlertRuns
import SpendCraft.BudgetMessages
import SpendCraft.CsvExporter
import SpendCraft.CsvParser
import SpendCraft.CsvRoundTrip
import SpendCraft.ImportTransactions
import SpendCraft.Lib.Binary64
import SpendCraft.CsvRecords
import SpendCraft.DefaultAccount
import SpendCraft.Ios.Accounts
import SpendCraft.Ios.DefaultAccount
import SpendCraft.ReferentialIntegrity
import SpendCraft.Streaks
import SpendCraft.BestStreak
import SpendCraft.Achievements
import SpendCraft.AchievementReward
import SpendCraft.Lib.Schedule
import SpendCraft.Ios.Recurring
import SpendCraft.Ios.RecurringRuns
import SpendCraft.Lib.SqlScript
import SpendCraft.Lib.Migration
import SpendCraft.Migrations
import SpendCraft.Lib.SumsByKey
import SpendCraft.CategoryRoundTrip
import SpendCraft.TransactionMap
import SpendCraft.AIRepository
import SpendCraft.Ios.RecurringEnd
import SpendCraft.Ios.Budgets
import SpendCraft.Ios.Notifications
import SpendCraft.Ios.MonthlyAlerts
import SpendCraft.Ios.CsvFile
import SpendCraft.Ios.CsvFileRoundTrip
import SpendCraft.Ios.ObjectIds
import SpendCraft.Ios.ImportFailures
import SpendCraft.Lib.KeyedMerge
import SpendCraft.Ios.Backups
import SpendCraft.Ios.BudgetAgreement
import SpendCraft.BudgetScreens
import SpendCraft.Lib.LinkedMap
import SpendCraft.CategoriesTab
import SpendCraft.NotificationScreens
import SpendCraft.Ios.Streaks
import SpendCraft.Ios.Links
import SpendCraft.AddForms
import SpendCraft.Ios.RecurringEdits
import SpendCraft.Ios.SignOut
import SpendCraft.Lib.Months
import SpendCraft.MonthlySpending
import SpendCraft.WriteBacks
import SpendCraft.Recurring
import SpendCraft.NextExecution
import SpendCraft.Ios.RecurringBooking
import SpendCraft.Lib.Windows
import SpendCraft.Ios.MonthlyTrend
import SpendCraft.ChartData
import SpendCraft.AchievementTable
import SpendCraft.Ios.Achievements
import SpendCraft.BillingConnection
import SpendCraft.ProductQueries
import SpendCraft.PurchaseAcknowledgement
import SpendCraft.CategoryUpdates
import SpendCraft.Ios.SalaryReminders
import SpendCraft.ExpenseShares
import SpendCraft.Ios.CurrencyField
import SpendCraft.Lib.Grouping
import SpendCraft.DaySections
import SpendCraft.AchievementUnlocks
import SpendCraft.CategoryAchievements
import SpendCraft.Lib.Rekeying
import SpendCraft.CategoryBreakdown
import SpendCraft.MonthWindows
import SpendCraft.GeneralBreach
import SpendCraft.BudgetLimits
import SpendCraft.CategoryChoice
import SpendCraft.Ios.ExactAmounts
import SpendCraft.Ios.EditForm
import SpendCraft.CurrencyField
import SpendCraft.BudgetDialogs
import SpendCraft.Ios.DailyTrend
import SpendCraft.Lib.Rfc4180
import SpendCraft.ToolsExport
import SpendCraft.Lib.SharedCell
import SpendCraft.RecurringRules
import SpendCraft.Ios.Rescheduling
import SpendCraft.Lib.KeyedItems
import SpendCraft.NotificationIds
import SpendCraft.Ios.AICooldown
import SpendCraft.NotificationTray
import SpendCraft.AdMobInterstitial
import SpendCraft.Ios.AdsManager
import SpendCraft.Lib.PrefixCode
import SpendCraft.UserProfiling
import SpendCraft.Lib.KeyedListener
import SpendCraft.Lib.PlainCsv
import SpendCraft.Auth
import SpendCraft.AuthGate
import SpendCraft.Ios.AuthListener
import SpendCraft.ReportExport
import SpendCraft.MoneyText
import SpendCraft.DashboardTotals
import SpendCraft.Lib.Pages
import SpendCraft.Ios.UserProfiling
import SpendCraft.PdfReport
import SpendCraft.Ios.PdfReport
import SpendCraft.Interchange
import SpendCraft.Ios.NotificationForms
import SpendCraft.Ios.NotificationReminders
import SpendCraft.Ios.NotificationRows
import SpendCraft.Ios.BudgetForm
import SpendCraft.Ios.SavedBudgets
import SpendCraft.Ios.ReopenedBudgets
