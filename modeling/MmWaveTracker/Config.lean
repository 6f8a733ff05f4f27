import MmWaveTracker.JavaInt

/-! The constants of `core/config.java` and of `android.telephony.TelephonyManager`
that the modelled code reads. -/
namespace MmWaveTracker

def appName : String := "mmWaveCapture"
def csvDelimieter : String := ","
def csvExtension : String := ".csv"

def networkNotConnected : String := "NOT_CONNECTED"
def networkTypeWifi : String := "WIFI"
def networkTypeMobile : String := "MOBILE"
def networkTypeLte : String := "LTE"
def networkType5GSA : String := "SA_NR"
def networkTypeMmwave : String := "MMWAVE"
def networkType5GNSA : String := "5GNSA"
def networkTypeNrAdvanced : String := "5GNR+"
def networkTypeLtePro : String := "LTEPRO"
def networkTypeLteCa : String := "LTEPCA"
def networkTypeUnknown : String := "UNKNOWN"

def nrConnectedKeyword : String := "CONNECTED"
def nrNotRestrictedKeyword : String := "NOT_RESTRICTED"
def nrcNoneKeyword : String := "NONE"

def noHandoff : ℤ := 0
def verticalHandoff : ℤ := 1
def horizontalHandoff : ℤ := 2
def verticalHorizontanlHandoff : ℤ := 3

def mobilitylabelQueueSize : ℕ := 20
def speedCalculationWindowSize : ℕ := 2
def mobilitylabelStationaryMaxThresholdMeters : ℤ := 3
def mobilitylabelWalkingMaxThresholdMeters : ℤ := 25
def mobilitylabelStationary : ℤ := 101
def mobilitylabelWalking : ℤ := 102
def mobilitylabelDriving : ℤ := 103
def mobilitylabelInvalid : ℤ := -1

/-- `TelephonyManager.NETWORK_TYPE_LTE` and `NETWORK_TYPE_NR`. -/
def telephonyNetworkTypeLte : ℤ := 13
def telephonyNetworkTypeNr : ℤ := 20

/-- The constants of `TelephonyDisplayInfo`. -/
def overrideNetworkTypeLteCa : ℤ := 1
def overrideNetworkTypeLteAdvancedPro : ℤ := 2
def overrideNetworkTypeNrNsa : ℤ := 3
def overrideNetworkTypeNrNsaMmwave : ℤ := 4
def overrideNetworkTypeNrAdvanced : ℤ := 5

/-- `Build.VERSION_CODES.Q`. -/
def versionCodeQ : ℤ := 29
def versionCodeR : ℤ := 30

end MmWaveTracker
